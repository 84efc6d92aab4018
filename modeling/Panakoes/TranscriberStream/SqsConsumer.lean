import Mathlib.Data.List.AList
import Mathlib.Data.List.Sort
import Panakoes.Foundation.PyJson
import Panakoes.Foundation.Run

/-! # The audio-frame consumer

`SQSConsumer.frames` of the transcriber-stream container: an asynchronous
generator that long-polls one queue, decodes each message, buffers frames by
`seq` and yields them. The generator is suspended at a `yield`, in the
`receive_message` call or in the sleep after a failed call; `stop()` may be
called in any of these places. Each action resumes it there and runs it to the
next suspension. Clock readings are exact rationals in seconds.
-/

namespace Panakoes.TranscriberStream

open Transition

/-- The payload of a frame. -/
abbrev Bytes := List UInt8

/-- One entry of `resp["Messages"]`. -/
structure Message where
  messageId : Option String
  receiptHandle : Option String
  body : Option String
  deriving DecidableEq

/-- The standard-library decoders the consumer calls: `json.loads`,
`datetime.fromisoformat(...).timestamp()` and
`base64.b64decode(..., validate=True)`. -/
structure Decoders where
  loads : String → Except PyError PyJson
  timestamp : String → Except PyError ℚ
  b64decode : String → Except PyError Bytes

/-- The consumer's fixed attributes. -/
structure SQSConsumer where
  decoders : Decoders
  startedAt : ℚ

namespace SQSConsumer

/-- `STALE_FRAME_CUTOFF_SECONDS`. -/
def staleFrameCutoffSeconds : ℚ := 5

/-- `MAX_GAP_WAIT_SECONDS`. -/
def maxGapWaitSeconds : ℚ := 2

variable (consumer : SQSConsumer)

/-- `received_at.replace("Z", "+00:00")`. -/
def replaceZulu (text : String) : String :=
  String.ofList (text.toList.flatMap fun char => if char = 'Z' then "+00:00".toList else [char])

/-- Whether `received_at` makes the frame stale. A `received_at` that is not a
timestamp does not; only `ValueError` is caught. -/
def isStale (receivedAt : PyJson) : Except PyError Bool :=
  match receivedAt with
  | .str text =>
      match consumer.decoders.timestamp (replaceZulu text) with
      | .ok ts => .ok (ts < consumer.startedAt - staleFrameCutoffSeconds)
      | .error .valueError => .ok false
      | .error error => .error error
  | _ => .ok false

/-- `seq_raw if isinstance(seq_raw, int) and seq_raw >= 0 else None`. -/
def usableSeq (seqRaw : PyJson) : Option Nat :=
  match seqRaw.int? with
  | some value => if 0 ≤ value then some value.toNat else none
  | none => none

/-- What one message decodes to. -/
inductive Decoded where
  | malformed
  | stale
  | frame (seq : Option Nat) (pcm : Bytes)
  deriving DecidableEq

/-- Decode `pcm_b64`, dropping what is not the base64 text of some bytes. -/
def decodePcm (envelope : List (String × PyJson)) : Except PyError Decoded :=
  match (PyJson.getD envelope "pcm_b64" (.str "")).nonemptyStr? with
  | none => .ok .malformed
  | some text =>
      match consumer.decoders.b64decode text with
      | .ok pcm => .ok (.frame (usableSeq (PyJson.get envelope "seq")) pcm)
      | .error .valueError => .ok .malformed
      | .error error => .error error

/-- The body of the loop over `messages`, up to the duplicate test. A body that
is JSON but not an object has no `.get`. -/
def decode (message : Message) : Except PyError Decoded :=
  match consumer.decoders.loads (message.body.getD "") with
  | .error .jsonDecodeError => .ok .malformed
  | .error error => .error error
  | .ok (.dict envelope) =>
      match consumer.isStale (PyJson.get envelope "received_at") with
      | .error error => .error error
      | .ok true => .ok .stale
      | .ok false => consumer.decodePcm envelope
  | .ok _ => .error .attributeError

/-- The buffered frames, by `seq`. -/
abbrev Pending := AList fun _ : Nat => Bytes

/-- The entry appended to `to_delete` when the message has a receipt. -/
def deleteEntry (message : Message) : List (String × String) :=
  let receipt := message.receiptHandle.getD ""
  if receipt = "" then [] else [(message.messageId.getD "?", receipt)]

/-- What the loop over one batch accumulates. -/
structure Intake where
  pending : Pending
  payloads : List Bytes
  toDelete : List (String × String)
  staleDropped : Nat
  malformedDropped : Nat
  duplicateDropped : Nat

/-- Whether a `seq` counts as already yielded. -/
def alreadyYielded (yieldedUpTo : Option Nat) (seq : Nat) : Bool :=
  match yieldedUpTo with
  | some last => seq ≤ last
  | none => false

/-- Sort one decoded message into the batch. -/
def Intake.accept (intake : Intake) (yieldedUpTo : Option Nat) : Decoded → Intake
  | .malformed => { intake with malformedDropped := intake.malformedDropped + 1 }
  | .stale => { intake with staleDropped := intake.staleDropped + 1 }
  | .frame none pcm => { intake with payloads := intake.payloads ++ [pcm] }
  | .frame (some seq) pcm =>
      if alreadyYielded yieldedUpTo seq ∨ seq ∈ intake.pending then
        { intake with duplicateDropped := intake.duplicateDropped + 1 }
      else { intake with pending := intake.pending.insert seq pcm }

/-- The loop over `messages`; an exception that is not caught ends it. -/
def takeIn (yieldedUpTo : Option Nat) (intake : Intake) :
    List Message → Except PyError Intake
  | [] => .ok intake
  | message :: rest =>
      match consumer.decode message with
      | .error error => .error error
      | .ok decoded =>
          let accepted := intake.accept yieldedUpTo decoded
          takeIn yieldedUpTo
            { accepted with toDelete := accepted.toDelete ++ deleteEntry message } rest

/-- Where the generator is suspended. `drain` is the loop over `sorted(pending)`
after the receive loop. -/
inductive Pc where
  | created
  | receiving
  | sleeping
  | payloads (rest : List Bytes)
  | flush
  | skipFlush
  | drain (rest : List Nat)
  | returned
  | raised (error : PyError)
  deriving DecidableEq

/-- The generator's local variables and the consumer's mutable attributes, with
the frames yielded and the delete requests sent so far. -/
structure State where
  pending : Pending
  nextSeq : Option Nat
  yieldedUpTo : Option Nat
  gapSince : Option ℚ
  stopped : Bool
  staleDropped : Nat
  malformedDropped : Nat
  duplicateDropped : Nat
  gapSkipped : Nat
  pc : Pc
  yielded : List (Option Nat × Bytes)
  deleteRequests : List (List (String × String))

/-- A consumer whose `frames()` has just been called. -/
def initial : State where
  pending := ∅
  nextSeq := none
  yieldedUpTo := none
  gapSince := none
  stopped := false
  staleDropped := 0
  malformedDropped := 0
  duplicateDropped := 0
  gapSkipped := 0
  pc := .created
  yielded := []
  deleteRequests := []

namespace State

/-- Hand one frame to the main loop. -/
def yieldFrame (state : State) (seq : Option Nat) (pcm : Bytes) (pc : Pc) : State :=
  { state with yielded := state.yielded ++ [(seq, pcm)], pc }

/-- The next iteration of `for seq in sorted(pending): yield pending[seq]`. -/
def drainNext (state : State) : List Nat → State
  | [] => { state with pc := .returned }
  | seq :: rest =>
      match state.pending.lookup seq with
      | some pcm => state.yieldFrame (some seq) pcm (.drain rest)
      | none => { state with pc := .raised .keyError }

/-- `sorted(pending)`. -/
def sortedPending (state : State) : List Nat := state.pending.keys.insertionSort (· ≤ ·)

/-- `while not self._stop.is_set()`: receive again, or drain what is buffered. -/
def loopHead (state : State) : State :=
  if state.stopped then state.drainNext state.sortedPending else { state with pc := .receiving }

/-- Pop the frame at `next_seq` and yield it. -/
def popFrame (state : State) (seq : Nat) (pcm : Bytes) (pc : Pc) : State :=
  { state with
    pending := state.pending.erase seq
    yieldedUpTo := some seq
    nextSeq := some (seq + 1) }.yieldFrame (some seq) pcm pc

/-- Give up waiting: continue at the lowest buffered `seq`. -/
def skipGap (state : State) : State :=
  { state with
    gapSkipped := state.gapSkipped + 1
    nextSeq := state.pending.keys.min?
    gapSince := none }

/-- The gap check after the ordered flush. The skip only moves `next_seq`: the
frames there are flushed after the next receive. -/
def checkGap (state : State) (now : ℚ) : State :=
  if state.pending.keys = [] then state
  else
    match state.gapSince with
    | none => { state with gapSince := some now }
    | some since => if maxGapWaitSeconds ≤ now - since then state.skipGap else state

/-- The loop test of the ordered flush, with what follows the loop. -/
def flushLoop (state : State) (now : ℚ) : State :=
  match state.nextSeq with
  | none => state.loopHead
  | some next =>
      match state.pending.lookup next with
      | some pcm => { state with gapSince := none }.popFrame next pcm .flush
      | none => (state.checkGap now).loopHead

/-- `if pending:` with the initialisation of `next_seq`. -/
def enterFlush (state : State) (now : ℚ) : State :=
  match state.pending.keys.min? with
  | none => state.loopHead
  | some lowest => { state with nextSeq := some (state.nextSeq.getD lowest) }.flushLoop now

/-- `for payload in payloads`, then the ordered flush. -/
def emitPayloads (state : State) (now : ℚ) : List Bytes → State
  | [] => state.enterFlush now
  | pcm :: rest => state.yieldFrame none pcm (.payloads rest)

/-- The loop test of the flush after a skip on an empty receive. -/
def skipFlushLoop (state : State) : State :=
  match state.nextSeq with
  | none => state.loopHead
  | some next =>
      match state.pending.lookup next with
      | some pcm => state.popFrame next pcm .skipFlush
      | none => state.loopHead

/-- Whether frames are buffered behind a `seq` that has not arrived. -/
def HasGap (state : State) : Prop :=
  ∃ next ∈ state.nextSeq, state.pending.keys ≠ [] ∧ next ∉ state.pending

instance (state : State) : Decidable state.HasGap :=
  inferInstanceAs (Decidable (∃ next ∈ state.nextSeq, _))

/-- A receive without messages: only a persistent gap is looked at. -/
def emptyReceive (state : State) (now : ℚ) : State :=
  if state.HasGap then
    match state.gapSince with
    | none => { state with gapSince := some now }.loopHead
    | some since =>
        if maxGapWaitSeconds ≤ now - since then state.skipGap.skipFlushLoop
        else state.loopHead
  else state.loopHead

end State

/-- A receive with messages. The delete request is sent when it is not empty,
and its failure is only logged. -/
def batchReceive (state : State) (messages : List Message) (now : ℚ) : State :=
  match consumer.takeIn state.yieldedUpTo
      ⟨state.pending, [], [], state.staleDropped, state.malformedDropped,
        state.duplicateDropped⟩ messages with
  | .error error => { state with pc := .raised error }
  | .ok intake =>
      { state with
        pending := intake.pending
        staleDropped := intake.staleDropped
        malformedDropped := intake.malformedDropped
        duplicateDropped := intake.duplicateDropped
        deleteRequests := state.deleteRequests ++
          if intake.toDelete = [] then [] else [intake.toDelete] }.emitPayloads now intake.payloads

/-- How `receive_message` ends. -/
inductive Received where
  | failed
  | messages (batch : List Message)
  deriving DecidableEq

/-- What the environment does: call `stop()`, let the sleep end, answer the
receive call, or ask the generator for the next frame. `now` is what
`time.monotonic()` returns if the code reads it in this step. -/
inductive Action where
  | stop
  | wake
  | receive (received : Received) (now : ℚ)
  | next (now : ℚ)
  deriving DecidableEq

/-- Resume the generator after a yield: every yield but the draining ones is
followed by `if self._stop.is_set(): return`. -/
def resume (state : State) (now : ℚ) : Option State :=
  match state.pc with
  | .created => some state.loopHead
  | .payloads rest =>
      some (if state.stopped then { state with pc := .returned } else state.emitPayloads now rest)
  | .flush => some (if state.stopped then { state with pc := .returned } else state.flushLoop now)
  | .skipFlush =>
      some (if state.stopped then { state with pc := .returned } else state.skipFlushLoop)
  | .drain rest => some (state.drainNext rest)
  | _ => none

/-- One step of the consumer. -/
def step (state : State) : Action → Option State
  | .stop => some { state with stopped := true }
  | .wake => if state.pc = .sleeping then some state.loopHead else none
  | .receive received now =>
      if state.pc = .receiving then
        match received with
        | .failed => some { state with pc := .sleeping }
        | .messages [] => some (state.emptyReceive now)
        | .messages (message :: rest) => some (consumer.batchReceive state (message :: rest) now)
      else none
  | .next now => resume state now

/-- The effect of a step, with the place it is taken at. -/
inductive StepEffect (before : State) : Action → State → Prop where
  | stop : StepEffect before .stop { before with stopped := true }
  | wake (sleeping : before.pc = .sleeping) : StepEffect before .wake before.loopHead
  | failed (now : ℚ) (receiving : before.pc = .receiving) :
      StepEffect before (.receive .failed now) { before with pc := .sleeping }
  | empty (now : ℚ) (receiving : before.pc = .receiving) :
      StepEffect before (.receive (.messages []) now) (before.emptyReceive now)
  | batch (message : Message) (rest : List Message) (now : ℚ)
      (receiving : before.pc = .receiving) :
      StepEffect before (.receive (.messages (message :: rest)) now)
        (consumer.batchReceive before (message :: rest) now)
  | start (now : ℚ) (created : before.pc = .created) :
      StepEffect before (.next now) before.loopHead
  /-- The generator returns after a yield. -/
  | leave (now : ℚ) (stopped : before.stopped = true)
      (yielding : (∃ rest, before.pc = .payloads rest) ∨ before.pc = .flush ∨
        before.pc = .skipFlush) :
      StepEffect before (.next now) { before with pc := .returned }
  | payloads (now : ℚ) (rest : List Bytes) (yielding : before.pc = .payloads rest)
      (running : before.stopped = false) :
      StepEffect before (.next now) (before.emitPayloads now rest)
  | flush (now : ℚ) (yielding : before.pc = .flush) (running : before.stopped = false) :
      StepEffect before (.next now) (before.flushLoop now)
  | skipFlush (now : ℚ) (yielding : before.pc = .skipFlush) (running : before.stopped = false) :
      StepEffect before (.next now) before.skipFlushLoop
  | drain (now : ℚ) (rest : List Nat) (draining : before.pc = .drain rest) :
      StepEffect before (.next now) (before.drainNext rest)

theorem step_effect {before after : State} {action : Action}
    (taken : consumer.step before action = some after) :
    consumer.StepEffect before action after := by
  cases action with
  | stop =>
      cases taken
      exact .stop
  | wake =>
      simp only [step] at taken
      split at taken
      · rename_i sleeping
        cases taken
        exact .wake sleeping
      · cases taken
  | receive received now =>
      simp only [step] at taken
      split at taken
      · rename_i receiving
        split at taken
        · cases taken
          exact .failed now receiving
        · cases taken
          exact .empty now receiving
        · cases taken
          exact .batch _ _ now receiving
      · cases taken
  | next now =>
      simp only [step, resume] at taken
      split at taken <;> rename_i at_pc
      · cases taken
        exact .start now at_pc
      · cases taken
        split
        · rename_i stopped
          exact .leave now stopped (Or.inl ⟨_, at_pc⟩)
        · rename_i running
          exact .payloads now _ at_pc (Bool.not_eq_true _ ▸ running)
      · cases taken
        split
        · rename_i stopped
          exact .leave now stopped (Or.inr (Or.inl at_pc))
        · rename_i running
          exact .flush now at_pc (Bool.not_eq_true _ ▸ running)
      · cases taken
        split
        · rename_i stopped
          exact .leave now stopped (Or.inr (Or.inr at_pc))
        · rename_i running
          exact .skipFlush now at_pc (Bool.not_eq_true _ ▸ running)
      · cases taken
        exact .drain now _ at_pc
      · cases taken

/-- The generator has returned or raised. -/
def State.Ended (state : State) : Prop := state.pc = .returned ∨ ∃ error, state.pc = .raised error

/-- Of a generator that has ended, only the stop event is still set. -/
theorem step_of_ended {before after : State} {action : Action} (ended : before.Ended)
    (taken : consumer.step before action = some after) :
    action = .stop ∧ after = { before with stopped := true } := by
  cases action with
  | stop =>
      cases taken
      exact ⟨rfl, rfl⟩
  | wake => rcases ended with at_pc | ⟨error, at_pc⟩ <;> simp [step, at_pc] at taken
  | receive received now =>
      rcases ended with at_pc | ⟨error, at_pc⟩ <;> simp [step, at_pc] at taken
  | next now => rcases ended with at_pc | ⟨error, at_pc⟩ <;> simp [step, resume, at_pc] at taken

/-- A run of the consumer from the call of `frames()`. -/
def frames (actions : List Action) : Option State := execute consumer.step initial actions

/-- The messages an action delivers. -/
def Action.messages : Action → List Message
  | .receive (.messages batch) _ => batch
  | _ => []

/-- The clock reading an action carries. -/
def Action.clock : Action → Option ℚ
  | .receive _ now => some now
  | .next now => some now
  | _ => none

/-- The messages delivered over a run, in order. -/
def delivered (actions : List Action) : List Message := actions.flatMap Action.messages

/-- The clock never goes back over a run. -/
def MonotoneClock (actions : List Action) : Prop :=
  (actions.filterMap Action.clock).Pairwise (· ≤ ·)

instance (actions : List Action) : Decidable (MonotoneClock actions) :=
  inferInstanceAs (Decidable (List.Pairwise _ _))

/-- The `seq` numbers of the frames yielded, in order. -/
def State.seqs (state : State) : List Nat := state.yielded.filterMap Prod.fst

end SQSConsumer

end Panakoes.TranscriberStream
