import Panakoes.Foundation.Run
import Panakoes.Summarization.SummaryStorage

/-! # The two halves of a summary

All calls for one user and one transcript write the same object and the same item, the object
first, and a read takes the item first and the object later. A record that a read returns is of
one call if and only if the object that was written last, when the read fetches it, is the
object of the call whose item it has.
-/

namespace Panakoes.Summarization

open Transition ConditionalWrite

/-- A value, and the call that has written it. -/
structure Written (α : Type) where
  writer : ℕ
  value : α
  deriving DecidableEq

/-- Where a call of `write_summary` is. -/
inductive WriterPc where
  | puttingObject
  | puttingItem
  | returned
  | raised
  deriving DecidableEq

/-- A call of `write_summary`, with the place it has come to. -/
structure Writer where
  call : SummaryCall
  pc : WriterPc
  deriving DecidableEq

/-- What `get_summary` returns: the halves it has read, and the record made of them. -/
structure Returned where
  item : Written SummaryItem
  summary : Written String
  record : SummaryRecord
  deriving DecidableEq

/-- Where a call of `get_summary` is. -/
inductive Reader where
  | gettingItem
  | gettingObject (item : Written SummaryItem)
  | missing
  | returned (result : Returned)
  | raised
  deriving DecidableEq

/-- The object and the item of the transcript, and the calls so far. -/
structure State where
  object : Option (Written String)
  item : Option (Written SummaryItem)
  writers : List Writer
  readers : List Reader

/-- A call is made, or one of its requests ends. -/
inductive Action where
  | write (summary : String) (tier : Tier) (model : String) (inputTokens outputTokens : ℤ)
      (createdAt : String)
  | putObject (index : ℕ) (fault : Fault)
  | putItem (index : ℕ) (fault : Fault)
  | read
  | getItem (index : ℕ) (answered : Bool)
  | getObject (index : ℕ) (answered : Bool)

/-- The end of `get_summary`. An object that is not there is a `ClientError`. -/
def finishRead (object : Option (Written String)) (item : Written SummaryItem) : Reader :=
  match object with
  | none => .raised
  | some summary =>
      match recordFromItem item.value summary.value with
      | .error _ => .raised
      | .ok record => .returned ⟨item, summary, record⟩

/-- One step of the calls for a user and a transcript. -/
def step (userId transcriptId : String) (state : State) : Action → Option State
  | .write summary tier model inputTokens outputTokens createdAt =>
      let call : SummaryCall :=
        ⟨userId, transcriptId, summary, tier, model, inputTokens, outputTokens, createdAt⟩
      some { state with writers := state.writers ++ [⟨call, .puttingObject⟩] }
  | .putObject index fault => do
      let writer ← state.writers[index]?
      if writer.pc = .puttingObject then
        let outcome := put fault state.object (some ⟨index, writer.call.summary⟩)
        let pc : WriterPc := if outcome.reply = .ok then .puttingItem else .raised
        some { state with
          object := outcome.table
          writers := state.writers.set index { writer with pc } }
      else none
  | .putItem index fault => do
      let writer ← state.writers[index]?
      if writer.pc = .puttingItem then
        let outcome := put fault state.item (some ⟨index, writer.call.item⟩)
        let pc : WriterPc := if outcome.reply = .ok then .returned else .raised
        some { state with
          item := outcome.table
          writers := state.writers.set index { writer with pc } }
      else none
  | .read => some { state with readers := state.readers ++ [.gettingItem] }
  | .getItem index answered => do
      let reader ← state.readers[index]?
      if reader = .gettingItem then
        let next : Reader :=
          if answered then
            match state.item with
            | none => .missing
            | some item => .gettingObject item
          else .raised
        some { state with readers := state.readers.set index next }
      else none
  | .getObject index answered => do
      match ← state.readers[index]? with
      | .gettingObject item =>
          let next : Reader := if answered then finishRead state.object item else .raised
          some { state with readers := state.readers.set index next }
      | _ => none

/-- Before the first call. -/
def State.start : State := ⟨none, none, [], []⟩

/-- The arguments of a call. -/
def State.call? (state : State) (index : ℕ) : Option SummaryCall :=
  state.writers[index]?.map Writer.call

/-- Both halves of a result, and the record, are of one call. -/
def State.FromOneCall (state : State) (result : Returned) : Prop :=
  ∃ call, state.call? result.item.writer = some call ∧
    result.summary.writer = result.item.writer ∧ result.record = call.record

/-- A step that returns a record returns one of a single call. -/
def Paired (userId transcriptId : String) (state : State) : Action → Prop
  | .getObject index answered =>
      ∀ next ∈ step userId transcriptId state (.getObject index answered),
        ∀ result, next.readers[index]? = some (.returned result) → state.FromOneCall result
  | _ => True

/-- The call whose object was the last to be written. -/
def lastObject (past : List Action) : Option ℕ :=
  past.foldl (fun last action =>
    match action with
    | .putObject index fault => if fault = .lost then last else some index
    | _ => last) none

/-- A read that is answered fetches the object of the call whose item it has. -/
def InPhase (past : List Action) (state : State) : Action → Prop
  | .getObject index true =>
      ∀ item, state.readers[index]? = some (.gettingObject item) →
        lastObject past = some item.writer
  | _ => True

/-! ## What the stores hold -/

variable {userId transcriptId : String} {past : List Action} {state next : State}
  {action : Action} {index : ℕ}

@[simp] theorem lastObject_concat : lastObject (past ++ [action]) =
    match action with
    | .putObject index fault => if fault = .lost then lastObject past else some index
    | _ => lastObject past := by
  unfold lastObject
  rw [List.foldl_append]
  rfl

/-- A value is what its call writes. -/
def State.Wrote {α : Type} (state : State) (written : Written α) (value : SummaryCall → α) : Prop :=
  ∃ call, state.call? written.writer = some call ∧ written.value = value call

/-- What the stores and the reads hold has been written by calls, an item after an object. -/
structure Tracked (past : List Action) (state : State) : Prop where
  last : state.object.map Written.writer = lastObject past
  object : ∀ object ∈ state.object, state.Wrote object SummaryCall.summary
  item : ∀ item ∈ state.item, state.Wrote item SummaryCall.item ∧ state.object.isSome
  held : ∀ (index : ℕ) item, state.readers[index]? = some (.gettingObject item) →
    state.Wrote item SummaryCall.item ∧ state.object.isSome
  begun : ∀ (index : ℕ) writer, state.writers[index]? = some writer → writer.pc = .puttingItem →
    state.object.isSome

theorem Tracked.start : Tracked [] .start where
  last := rfl
  object _ found := by cases found
  item _ found := by cases found
  held _ _ found := by cases found
  begun _ _ found := by cases found

/-- What has been written stays so as long as the calls keep their arguments. -/
theorem State.Wrote.mono {α : Type} {written : Written α} {value : SummaryCall → α}
    (kept : ∀ index call, state.call? index = some call → next.call? index = some call)
    (wrote : state.Wrote written value) : next.Wrote written value := by
  obtain ⟨call, found, same⟩ := wrote
  exact ⟨call, kept _ _ found, same⟩

/-- The calls keep their arguments when one more is made. -/
theorem call?_append {call : SummaryCall} {writer : Writer} (found : state.call? index = some call) :
    State.call? { state with writers := state.writers ++ [writer] } index = some call := by
  obtain ⟨held, at_index, rfl⟩ := Option.map_eq_some_iff.mp found
  unfold State.call?
  rw [List.getElem?_append_left (List.getElem?_eq_some_iff.mp at_index).1, at_index]
  rfl

/-- The calls keep their arguments when one of them goes on. -/
theorem call?_set {writer : Writer} (found : state.writers[index]? = some writer) (pc : WriterPc)
    (other : ℕ) :
    ((state.writers.set index { writer with pc })[other]?).map Writer.call = state.call? other := by
  unfold State.call?
  by_cases same : index = other
  · subst same
    rw [List.getElem?_set_self', found]
    rfl
  · rw [List.getElem?_set_ne same]

/-- Who is about to put an item after a call has gone on. -/
theorem begun_set {writer other : Writer} {pc : WriterPc} {at_other : ℕ}
    (found : state.writers[index]? = some writer)
    (held : (state.writers.set index { writer with pc })[at_other]? = some other)
    (putting : other.pc = .puttingItem) :
    pc = .puttingItem ∨ state.writers[at_other]? = some other := by
  by_cases same : index = at_other
  · subst same
    rw [List.getElem?_set_self', found] at held
    cases held
    exact Or.inl putting
  · rw [List.getElem?_set_ne same] at held
    exact Or.inr held

theorem Tracked.write (tracked : Tracked past state) (call : SummaryCall)
    (quiet : lastObject (past ++ [action]) = lastObject past) :
    Tracked (past ++ [action])
      { state with writers := state.writers ++ [⟨call, .puttingObject⟩] } where
  last := tracked.last.trans quiet.symm
  object object found := (tracked.object object found).mono fun _ _ => call?_append
  item item found :=
    ⟨(tracked.item item found).1.mono fun _ _ => call?_append, (tracked.item item found).2⟩
  held index item found :=
    ⟨(tracked.held index item found).1.mono fun _ _ => call?_append,
      (tracked.held index item found).2⟩
  begun index writer found putting := by
    rw [List.getElem?_append] at found
    split at found
    · exact tracked.begun index writer found putting
    · rw [List.getElem?_singleton] at found
      split at found
      · cases found
        cases putting
      · cases found

/-- A read that has not come to an item holds what reads before it held. -/
theorem Tracked.setReader (tracked : Tracked past state) {reader : Reader}
    (quiet : lastObject (past ++ [action]) = lastObject past)
    (holds : ∀ item, reader = .gettingObject item →
      state.Wrote item SummaryCall.item ∧ state.object.isSome) :
    Tracked (past ++ [action]) { state with readers := state.readers.set index reader } where
  last := tracked.last.trans quiet.symm
  object := tracked.object
  item := tracked.item
  held other item found := by
    by_cases same : index = other
    · subst same
      rw [List.getElem?_set_self'] at found
      obtain ⟨_, _, same⟩ := Option.map_eq_some_iff.mp found
      exact holds item same
    · rw [List.getElem?_set_ne same] at found
      exact tracked.held other item found
  begun := tracked.begun

theorem Tracked.read (tracked : Tracked past state)
    (quiet : lastObject (past ++ [action]) = lastObject past) :
    Tracked (past ++ [action]) { state with readers := state.readers ++ [.gettingItem] } where
  last := tracked.last.trans quiet.symm
  object := tracked.object
  item := tracked.item
  held index item found := by
    rw [List.getElem?_append] at found
    split at found
    · exact tracked.held index item found
    · rw [List.getElem?_singleton] at found
      split at found
      · cases found
      · cases found
  begun := tracked.begun

/-- An object that is put is the last one, unless the request gets lost. -/
theorem Tracked.putObject (tracked : Tracked past state) {writer : Writer} {fault : Fault}
    {pc : WriterPc} (found : state.writers[index]? = some writer)
    (answered : pc = .puttingItem → fault ≠ .lost) :
    Tracked (past ++ [.putObject index fault])
      { state with
        object := (put fault state.object (some ⟨index, writer.call.summary⟩)).table
        writers := state.writers.set index { writer with pc } } := by
  have kept : ∀ other call, state.call? other = some call →
      ((state.writers.set index { writer with pc })[other]?).map Writer.call = some call :=
    fun other call held => (call?_set found pc other).trans held
  have own : state.call? index = some writer.call := by
    unfold State.call?
    rw [found]
    rfl
  have table : (put fault state.object (some ⟨index, writer.call.summary⟩)).table =
      if fault = .lost then state.object else some ⟨index, writer.call.summary⟩ := by
    cases fault <;> rfl
  rw [table]
  by_cases lost : fault = .lost
  · rw [if_pos lost]
    refine ⟨?_, fun object held => (tracked.object object held).mono kept,
      fun item held => ⟨(tracked.item item held).1.mono kept, (tracked.item item held).2⟩,
      fun other item held =>
        ⟨(tracked.held other item held).1.mono kept, (tracked.held other item held).2⟩,
      fun other writer held putting => ?_⟩
    · rw [lastObject_concat]
      exact tracked.last.trans (if_pos lost).symm
    · rcases begun_set found held putting with same | before
      · exact absurd lost (answered same)
      · exact tracked.begun other writer before putting
  · rw [if_neg lost]
    refine ⟨?_, fun object held => ?_, fun item held => ⟨(tracked.item item held).1.mono kept, rfl⟩,
      fun other item held => ⟨(tracked.held other item held).1.mono kept, rfl⟩, fun _ _ _ _ => rfl⟩
    · rw [lastObject_concat]
      exact (if_neg lost).symm
    · cases held
      exact ⟨writer.call, kept _ _ own, rfl⟩

/-- An item that is put follows an object. -/
theorem Tracked.putItem (tracked : Tracked past state) {writer : Writer} {fault : Fault}
    {pc : WriterPc} (found : state.writers[index]? = some writer)
    (putting : writer.pc = .puttingItem) (goesOn : pc ≠ .puttingItem) :
    Tracked (past ++ [.putItem index fault])
      { state with
        item := (put fault state.item (some ⟨index, writer.call.item⟩)).table
        writers := state.writers.set index { writer with pc } } := by
  have kept : ∀ other call, state.call? other = some call →
      ((state.writers.set index { writer with pc })[other]?).map Writer.call = some call :=
    fun other call held => (call?_set found pc other).trans held
  have own : state.call? index = some writer.call := by
    unfold State.call?
    rw [found]
    rfl
  have table : (put fault state.item (some ⟨index, writer.call.item⟩)).table =
      if fault = .lost then state.item else some ⟨index, writer.call.item⟩ := by
    cases fault <;> rfl
  rw [table]
  refine ⟨?_, fun object held => (tracked.object object held).mono kept, fun item held => ?_,
    fun other item held =>
      ⟨(tracked.held other item held).1.mono kept, (tracked.held other item held).2⟩,
    fun other writer held putting => ?_⟩
  · rw [lastObject_concat]
    exact tracked.last
  · dsimp only at held
    split at held
    · exact ⟨(tracked.item item held).1.mono kept, (tracked.item item held).2⟩
    · cases held
      exact ⟨⟨writer.call, kept _ _ own, rfl⟩, tracked.begun index writer found putting⟩
  · rcases begun_set found held putting with same | before
    · exact absurd same goesOn
    · exact tracked.begun other writer before putting

/-- Every step keeps track of the calls. -/
theorem Tracked.step (tracked : Tracked past state)
    (taken : Summarization.step userId transcriptId state action = some next) :
    Tracked (past ++ [action]) next := by
  cases action with
  | write summary tier model inputTokens outputTokens createdAt =>
      cases taken
      exact tracked.write _ lastObject_concat
  | putObject index fault =>
      obtain ⟨writer, found, taken⟩ := Option.bind_eq_some_iff.mp taken
      split at taken
      · cases taken
        refine tracked.putObject found fun putting lost => ?_
        rw [lost] at putting
        cases putting
      · cases taken
  | putItem index fault =>
      obtain ⟨writer, found, taken⟩ := Option.bind_eq_some_iff.mp taken
      split at taken
      · rename_i putting
        cases taken
        refine tracked.putItem found putting fun same => ?_
        split at same <;> cases same
      · cases taken
  | read =>
      cases taken
      exact tracked.read lastObject_concat
  | getItem index answered =>
      obtain ⟨reader, found, taken⟩ := Option.bind_eq_some_iff.mp taken
      split at taken
      · cases taken
        refine tracked.setReader lastObject_concat fun item same => ?_
        split at same
        · split at same
          · cases same
          · rename_i held
            cases same
            exact tracked.item _ held
        · cases same
      · cases taken
  | getObject index answered =>
      obtain ⟨reader, found, taken⟩ := Option.bind_eq_some_iff.mp taken
      split at taken
      · cases taken
        refine tracked.setReader lastObject_concat fun item same => ?_
        split at same
        · unfold finishRead at same
          split at same
          · cases same
          · split at same <;> cases same
        · cases same
      · cases taken

/-! ## Records of one call -/

/-- The end of a read whose item a call has written. -/
theorem finishRead_item {item : Written SummaryItem} {summary : Written String} {call : SummaryCall}
    (wrote : item.value = call.item) :
    finishRead (some summary) item =
      .returned ⟨item, summary, { call.record with summary := summary.value }⟩ := by
  unfold finishRead
  have read : recordFromItem item.value summary.value =
      .ok { call.record with summary := summary.value } := by
    rw [wrote]
    unfold recordFromItem
    have known : tier? call.item.tier = some call.tier := tier?_text call.tier
    rw [known]
    rfl
  dsimp only
  rw [read]

/-- The step of an answered read that fetches the object. -/
theorem step_getObject {item : Written SummaryItem}
    (found : state.readers[index]? = some (.gettingObject item)) :
    step userId transcriptId state (.getObject index true) =
      some { state with readers := state.readers.set index (finishRead state.object item) } := by
  simp only [step, found]
  rfl

/-- Who is at the place of a read after it has gone on. -/
theorem getElem?_set_reader {reader other : Reader} (found : state.readers[index]? = some reader) :
    (state.readers.set index other)[index]? = some other := by
  rw [List.getElem?_set_self', found]
  rfl

/-- A read returns a record of one call if and only if it fetches its object in phase. -/
theorem Tracked.paired_iff (tracked : Tracked past state) :
    Paired userId transcriptId state action ↔ InPhase past state action := by
  cases action with
  | write _ _ _ _ _ _ | putObject _ _ | putItem _ _ | read | getItem _ _ => exact Iff.rfl
  | getObject index answered =>
      cases answered with
      | false =>
          refine iff_of_true ?_ True.intro
          intro next taken result returned
          obtain ⟨reader, found, taken⟩ := Option.bind_eq_some_iff.mp taken
          split at taken
          · cases taken
            rw [getElem?_set_reader found] at returned
            cases returned
          · cases taken
      | true =>
          constructor
          · intro paired item found
            obtain ⟨⟨call, held, wrote⟩, isSome⟩ := tracked.held index item found
            obtain ⟨summary, object⟩ := Option.isSome_iff_exists.mp isSome
            have last := tracked.last
            rw [object] at last
            have finished := @finishRead_item item summary call wrote
            have one := paired _ (step_getObject found) _ (by
              rw [getElem?_set_reader found, object, finished])
            obtain ⟨_, _, same, _⟩ := one
            rw [← last, Option.map_some, same]
          · intro inPhase next taken result returned
            obtain ⟨reader, found, moved⟩ := Option.bind_eq_some_iff.mp taken
            split at moved
            · rename_i item
              rw [step_getObject found] at taken
              cases taken
              rw [getElem?_set_reader found] at returned
              have last := tracked.last.trans (inPhase item found)
              obtain ⟨summary, object, same⟩ := Option.map_eq_some_iff.mp last
              obtain ⟨⟨call, held, wrote⟩, -⟩ := tracked.held index item found
              obtain ⟨other, at_writer, text⟩ := tracked.object summary object
              rw [same, held] at at_writer
              cases at_writer
              rw [object, finishRead_item wrote, text] at returned
              cases returned
              exact ⟨call, held, same, rfl⟩
            · cases moved

/-- **Summaries are of one call when their halves are fetched in phase.** For every interleaving
of calls for a user and a transcript, with either write of each failing in any way: every record
that a read returns is the record of a single call if and only if each read that is answered
fetches the object when the last one written is of the call whose item it has. -/
theorem summary_paired_iff (userId transcriptId : String) (actions : List Action) :
    Meets (step userId transcriptId) (fun _ => Paired userId transcriptId) [] .start actions ↔
      Meets (step userId transcriptId) InPhase [] .start actions :=
  Meets.congr_of_past (fun _ _ _ _ tracked => tracked.step)
    (fun _ _ _ tracked => tracked.paired_iff) Tracked.start

/-! ## Two calls -/

/-- Two calls of one transcript with different tiers, the item of the first put last. -/
def crossedWrites : List Action :=
  [.write "fast" .haiku "claude-haiku-4-5" 1 1 "2026-05-11T00:00:00+00:00",
    .write "deep" .sonnet "claude-sonnet-4-6" 2 2 "2026-05-11T00:00:01+00:00",
    .putObject 0 .none, .putObject 1 .none, .putItem 1 .none, .putItem 0 .none, .read,
    .getItem 0 true]

/-- The record has the tier of one call and the text of the other. -/
theorem summary_halves_mixed :
    ¬ ∀ (userId transcriptId : String) (actions : List Action),
      Meets (step userId transcriptId) (fun _ => Paired userId transcriptId) [] .start actions := by
  intro always
  obtain ⟨-, last⟩ :=
    Meets.append.mp (always "user" "transcript" (crossedWrites ++ [.getObject 0 true]))
  obtain ⟨middle, reached, next, result, taken, returned, text, tier⟩ :
      ∃ middle, execute (step "user" "transcript") .start crossedWrites = some middle ∧
        ∃ next result, step "user" "transcript" middle (.getObject 0 true) = some next ∧
          next.readers[0]? = some (.returned result) ∧ result.summary.writer = 1 ∧
            result.item.writer = 0 := ⟨_, rfl, _, _, rfl, rfl, rfl, rfl⟩
  obtain ⟨_, -, same, -⟩ := (last middle reached).1 next taken result returned
  rw [text, tier] at same
  cases same

end Panakoes.Summarization
