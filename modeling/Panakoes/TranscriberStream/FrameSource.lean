import Panakoes.TranscriberStream.SqsIntake

/-! # Where yielded frames come from

Everything the consumer yields was decoded from a message it received: no step
invents audio or keeps any from another queue.
-/

namespace Panakoes.TranscriberStream.SQSConsumer

open Transition

variable {consumer : SQSConsumer} {messages : List Message}

/-- One of the messages decodes to the frame. -/
def Sourced (consumer : SQSConsumer) (messages : List Message) (seq : Option Nat)
    (pcm : Bytes) : Prop :=
  ∃ message ∈ messages, consumer.decode message = .ok (.frame seq pcm)

theorem Sourced.mono {more : List Message} {seq : Option Nat} {pcm : Bytes}
    (sourced : consumer.Sourced messages seq pcm) (subset : messages ⊆ more) :
    consumer.Sourced more seq pcm := by
  obtain ⟨message, member, decodes⟩ := sourced
  exact ⟨message, subset member, decodes⟩

namespace State

/-- Every frame yielded, buffered or about to be yielded was received. -/
structure Genuine (consumer : SQSConsumer) (messages : List Message) (state : State) : Prop where
  yielded : ∀ entry ∈ state.yielded, consumer.Sourced messages entry.1 entry.2
  buffered : ∀ seq pcm, state.pending.lookup seq = some pcm →
    consumer.Sourced messages (some seq) pcm
  waiting : ∀ rest, state.pc = .payloads rest → ∀ pcm ∈ rest, consumer.Sourced messages none pcm

variable {state : State}

theorem Genuine.mono {more : List Message} (genuine : state.Genuine consumer messages)
    (subset : messages ⊆ more) : state.Genuine consumer more :=
  ⟨fun entry member => (genuine.yielded entry member).mono subset,
    fun seq pcm held => (genuine.buffered seq pcm held).mono subset,
    fun rest at_pc pcm member => (genuine.waiting rest at_pc pcm member).mono subset⟩

/-- Moving to a suspension that is not among the payloads. -/
theorem Genuine.moveTo (genuine : state.Genuine consumer messages) (pc : Pc)
    (elsewhere : ∀ rest, pc ≠ .payloads rest) :
    State.Genuine consumer messages { state with pc } :=
  ⟨genuine.yielded, genuine.buffered, fun rest at_pc => absurd at_pc (elsewhere rest)⟩

theorem Genuine.yieldFrame (genuine : state.Genuine consumer messages) {seq : Option Nat}
    {pcm : Bytes} (sourced : consumer.Sourced messages seq pcm) (pc : Pc)
    (waiting : ∀ rest, pc = .payloads rest → ∀ later ∈ rest,
      consumer.Sourced messages none later) :
    (state.yieldFrame seq pcm pc).Genuine consumer messages := by
  refine ⟨?_, genuine.buffered, waiting⟩
  intro entry member
  rcases List.mem_append.mp member with before | new
  · exact genuine.yielded entry before
  · rw [List.mem_singleton] at new
    subst new
    exact sourced

theorem Genuine.popFrame (genuine : state.Genuine consumer messages) {seq : Nat} {pcm : Bytes}
    (held : state.pending.lookup seq = some pcm) (pc : Pc)
    (elsewhere : ∀ rest, pc ≠ .payloads rest) :
    (state.popFrame seq pcm pc).Genuine consumer messages := by
  apply Genuine.yieldFrame _ (genuine.buffered seq pcm held)
  · exact fun rest at_pc => absurd at_pc (elsewhere rest)
  · refine ⟨genuine.yielded, ?_, genuine.waiting⟩
    intro other bytes remaining
    have different : other ≠ seq := by
      intro same
      subst same
      rw [AList.lookup_erase] at remaining
      cases remaining
    rw [AList.lookup_erase_ne different] at remaining
    exact genuine.buffered other bytes remaining

theorem Genuine.drainNext (genuine : state.Genuine consumer messages) (rest : List Nat) :
    (state.drainNext rest).Genuine consumer messages := by
  cases rest with
  | nil => exact genuine.moveTo _ fun _ => Pc.noConfusion
  | cons seq rest =>
      cases held : state.pending.lookup seq with
      | some pcm =>
          simp only [State.drainNext, held]
          exact genuine.yieldFrame (genuine.buffered seq pcm held) _ fun _ => Pc.noConfusion
      | none =>
          simp only [State.drainNext, held]
          exact genuine.moveTo _ fun _ => Pc.noConfusion

theorem Genuine.loopHead (genuine : state.Genuine consumer messages) :
    state.loopHead.Genuine consumer messages := by
  unfold State.loopHead
  split
  · exact genuine.drainNext _
  · exact genuine.moveTo _ fun _ => Pc.noConfusion

/-- What the generator keeps besides frames does not matter. -/
theorem Genuine.adjust (genuine : state.Genuine consumer messages) (nextSeq : Option Nat)
    (gapSince : Option ℚ) (gapSkipped : Nat) :
    State.Genuine consumer messages { state with nextSeq, gapSince, gapSkipped } :=
  ⟨genuine.yielded, genuine.buffered, genuine.waiting⟩

theorem Genuine.checkGap (genuine : state.Genuine consumer messages) (now : ℚ) :
    (state.checkGap now).Genuine consumer messages := by
  unfold State.checkGap
  split
  · exact genuine
  · split
    · exact genuine.adjust _ _ _
    · split
      · exact genuine.adjust _ _ _
      · exact genuine

theorem Genuine.flushLoop (genuine : state.Genuine consumer messages) (now : ℚ) :
    (state.flushLoop now).Genuine consumer messages := by
  unfold State.flushLoop
  split
  · exact genuine.loopHead
  · split
    · rename_i pcm held
      have unblocked : State.Genuine consumer messages { state with gapSince := none } :=
        genuine.adjust _ _ _
      exact unblocked.popFrame held .flush fun _ => Pc.noConfusion
    · exact (genuine.checkGap now).loopHead

theorem Genuine.emitPayloads (genuine : state.Genuine consumer messages) (now : ℚ)
    {payloads : List Bytes} (sourced : ∀ pcm ∈ payloads, consumer.Sourced messages none pcm) :
    (state.emitPayloads now payloads).Genuine consumer messages := by
  cases payloads with
  | nil =>
      simp only [State.emitPayloads, State.enterFlush]
      split
      · exact genuine.loopHead
      · apply Genuine.flushLoop
        exact genuine.adjust _ _ _
  | cons pcm rest =>
      apply genuine.yieldFrame (sourced pcm List.mem_cons_self)
      intro other same later member
      cases same
      exact sourced later (List.mem_cons_of_mem _ member)

theorem Genuine.skipFlushLoop (genuine : state.Genuine consumer messages) :
    state.skipFlushLoop.Genuine consumer messages := by
  unfold State.skipFlushLoop
  split
  · exact genuine.loopHead
  · split
    · rename_i held
      exact genuine.popFrame held _ fun _ => Pc.noConfusion
    · exact genuine.loopHead

theorem Genuine.emptyReceive (genuine : state.Genuine consumer messages) (now : ℚ) :
    (state.emptyReceive now).Genuine consumer messages := by
  unfold State.emptyReceive
  split
  · split
    · apply Genuine.loopHead
      exact genuine.adjust _ _ _
    · split
      · apply Genuine.skipFlushLoop
        exact genuine.adjust _ _ _
      · exact genuine.loopHead
  · exact genuine.loopHead

end State

theorem batchReceive_genuine {state : State} (genuine : state.Genuine consumer messages)
    (batch : List Message) (now : ℚ) :
    (consumer.batchReceive state batch now).Genuine consumer (messages ++ batch) := by
  have wider := genuine.mono (List.subset_append_left messages batch)
  unfold batchReceive
  split
  · exact wider.moveTo _ fun _ => Pc.noConfusion
  · rename_i intake taken
    apply State.Genuine.emitPayloads
    · refine ⟨wider.yielded, ?_, wider.waiting⟩
      intro seq pcm held
      rcases lookup_takeIn taken held with before | ⟨message, member, decodes, _⟩
      · exact wider.buffered seq pcm before
      · exact ⟨message, List.mem_append_right _ member, decodes⟩
    · intro pcm member
      rcases mem_payloads_takeIn taken member with before | ⟨message, received, decodes⟩
      · exact absurd before List.not_mem_nil
      · exact ⟨message, List.mem_append_right _ received, decodes⟩

theorem initial_genuine : initial.Genuine consumer messages :=
  ⟨fun _ member => absurd member List.not_mem_nil, by rintro _ _ ⟨⟩,
    fun _ => Pc.noConfusion⟩

/-- Every step yields only what was received. -/
theorem step_genuine {before after : State} {action : Action}
    (genuine : before.Genuine consumer messages)
    (taken : consumer.step before action = some after) :
    after.Genuine consumer (messages ++ action.messages) := by
  cases consumer.step_effect taken with
  | batch message rest now _ => exact batchReceive_genuine genuine _ now
  | stop =>
      simp only [Action.messages, List.append_nil]
      exact ⟨genuine.yielded, genuine.buffered, genuine.waiting⟩
  | wake _ | start now _ =>
      simp only [Action.messages, List.append_nil]
      exact genuine.loopHead
  | failed now _ | leave now _ _ =>
      simp only [Action.messages, List.append_nil]
      exact genuine.moveTo _ fun _ => Pc.noConfusion
  | empty now _ =>
      simp only [Action.messages, List.append_nil]
      exact genuine.emptyReceive now
  | payloads now rest yielding _ =>
      simp only [Action.messages, List.append_nil]
      exact genuine.emitPayloads now (genuine.waiting _ yielding)
  | flush now _ _ =>
      simp only [Action.messages, List.append_nil]
      exact genuine.flushLoop now
  | skipFlush now _ _ =>
      simp only [Action.messages, List.append_nil]
      exact genuine.skipFlushLoop
  | drain now rest _ =>
      simp only [Action.messages, List.append_nil]
      exact genuine.drainNext _

end Panakoes.TranscriberStream.SQSConsumer
