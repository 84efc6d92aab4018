import Panakoes.TranscriberStream.FrameLedger
import Panakoes.TranscriberStream.FrameOrder

/-! # What is yielded by the time the generator ends

A message is deleted once its batch has been taken in, before its frame is yielded. By the
time the generator has ended, every frame of an accepted message has been yielded exactly
when the generator has not returned or raised with frames in hand: the drain after the
receive loop is skipped by the return that follows a yield and by an exception.
-/

namespace Panakoes.TranscriberStream.SQSConsumer

open Transition

variable {consumer : SQSConsumer} {actions : List Action} {before after final : State}
  {action : Action}

theorem State.Ended.held (ended : final.Ended) : final.held = 0 := by
  rcases ended with returned | ⟨error, raised⟩
  · simp only [State.held, returned]
  · simp only [State.held, raised]

/-- The message has a receipt, and the receipt is in a delete request. -/
def Deleted (state : State) (message : Message) : Prop :=
  ∃ entry ∈ deleteEntry message, ∃ request ∈ state.deleteRequests, entry ∈ request

instance (state : State) (message : Message) : Decidable (Deleted state message) :=
  inferInstanceAs (Decidable (∃ entry ∈ deleteEntry message, ∃ request ∈ _, entry ∈ request))

/-! ## Steps that lose frames -/

theorem buffered_ne_zero {pending : Pending} (nonempty : pending.keys ≠ []) :
    buffered pending ≠ 0 := by
  intro empty
  have none := congrArg Multiset.card empty
  rw [card_buffered, Multiset.card_zero] at none
  exact nonempty (List.eq_nil_of_length_eq_zero none)

/-- A yield that is followed by a return with frames left leaves frames in hand. -/
theorem held_ne_zero {now : ℚ} (loses : consumer.Loses before (.next now)) : before.held ≠ 0 := by
  obtain ⟨_, left⟩ := loses
  split at left
  · rename_i rest yielding
    simp only [State.held, yielding]
    intro nothing
    have none := congrArg Multiset.card nothing
    rw [Multiset.card_add, Multiset.card_zero, Multiset.coe_card, List.length_map] at none
    obtain ⟨numbered, payloads⟩ := Nat.add_eq_zero_iff.mp none
    rcases left with waiting | nonempty
    · exact waiting (List.eq_nil_of_length_eq_zero payloads)
    · exact buffered_ne_zero nonempty (Multiset.card_eq_zero.mp numbered)
  · rename_i yielding
    simp only [State.held, yielding]
    exact buffered_ne_zero left
  · rename_i yielding
    simp only [State.held, yielding]
    exact buffered_ne_zero left
  · exact left.elim

/-- What a step loses is not yielded and is more than nothing. The step accepts no message. -/
theorem step_loses (loses : consumer.Loses before action)
    (taken : consumer.step before action = some after) :
    after.ledger + before.held = before.ledger ∧ before.held ≠ 0 ∧
      consumer.acceptedBy before action = [] := by
  have ended := ended_of_loses loses taken
  have gone : after.yielded = before.yielded → after.ledger + before.held = before.ledger := by
    intro same
    rw [State.ledger, ended.held, Multiset.add_zero, same]
    rfl
  cases consumer.step_effect taken with
  | stop => exact loses.elim
  | wake _ => exact loses.elim
  | failed now _ => exact loses.elim
  | empty now _ =>
      obtain ⟨_, _, message, member, _⟩ := loses
      exact absurd member List.not_mem_nil
  | batch message rest now receiving =>
      cases consumed : consumer.takeIn before.yieldedUpTo before.intake (message :: rest) with
      | ok intake =>
          obtain ⟨_, _, other, member, raises⟩ := loses
          obtain ⟨decoded, decodes⟩ := decodes_of_takeIn consumed other member
          rw [decodes] at raises
          cases raises
      | error error =>
          refine ⟨gone ?_, ?_, ?_⟩
          · rw [batchReceive_of_error now consumed]
          · simp only [State.held, receiving]
            exact buffered_ne_zero loses.2.1
          · rw [acceptedBy, consumed]
  | leave now _ _ => exact ⟨gone rfl, held_ne_zero loses, rfl⟩
  | start now at_pc => simp only [Loses, at_pc, and_false] at loses
  | payloads now rest _ running => cases running.symm.trans loses.1
  | flush now _ running => cases running.symm.trans loses.1
  | skipFlush now _ running => cases running.symm.trans loses.1
  | drain now rest at_pc => simp only [Loses, at_pc, and_false] at loses

/-- Once the generator has ended nothing is accepted or yielded. -/
theorem step_ended (ended : before.Ended) (taken : consumer.step before action = some after) :
    after.ledger = before.ledger ∧ consumer.acceptedBy before action = [] := by
  obtain ⟨rfl, rfl⟩ := consumer.step_of_ended ended taken
  exact ⟨rfl, rfl⟩

/-! ## Ended runs -/

/-- A run with a step that loses frames has ended without them. -/
theorem lost_of_loses (run : consumer.frames actions = some final)
    (loses : ¬ Meets consumer.step (fun _ state action => ¬ consumer.Loses state action) [] initial
      actions) :
    final.Ended ∧ ∃ lost, lost ≠ 0 ∧
      final.ledger + lost = consumer.framesOf (consumer.accepted actions) := by
  induction actions using List.reverseRecOn generalizing final with
  | nil => exact absurd trivial loses
  | append_singleton past action ih =>
      obtain ⟨before, reached, taken⟩ := (execute_concat_eq_some _).mp run
      rw [accepted_concat reached, framesOf_append]
      by_cases earlier : Meets consumer.step (fun _ state action => ¬ consumer.Loses state action)
          [] initial past
      · have now : consumer.Loses before action := by
          by_contra keeps
          refine loses (Meets.append.mpr ⟨earlier, fun middle same => ?_⟩)
          cases reached.symm.trans same
          exact ⟨keeps, fun _ _ => trivial⟩
        obtain ⟨lost, nonzero, none⟩ := step_loses now taken
        refine ⟨ended_of_loses now taken, before.held, nonzero, ?_⟩
        rw [lost, none, frames_ledger earlier reached]
        exact (Multiset.add_zero _).symm
      · obtain ⟨ended, lost, nonzero, whole⟩ := ih reached earlier
        obtain ⟨same, none⟩ := step_ended ended taken
        refine ⟨ended_of_step ended taken, lost, nonzero, ?_⟩
        rw [same, none, whole]
        exact (Multiset.add_zero _).symm

theorem State.Ended.ledger (ended : final.Ended) : final.ledger = ↑final.yielded := by
  rw [State.ledger, ended.held, Multiset.add_zero]

/-- Every accepted frame is yielded by the end, each as often as it was accepted, exactly when no
step loses any. -/
theorem yielded_perm_iff (run : consumer.frames actions = some final) (ended : final.Ended) :
    final.yielded.Perm ((consumer.accepted actions).filterMap consumer.frameOf) ↔
      Meets consumer.step (fun _ state action => ¬ consumer.Loses state action) [] initial
        actions := by
  constructor
  · intro all
    by_contra loses
    obtain ⟨_, lost, nonzero, whole⟩ := lost_of_loses run loses
    have frames : consumer.framesOf (consumer.accepted actions) = ↑final.yielded :=
      (Multiset.coe_eq_coe.mpr all).symm
    rw [frames, ended.ledger] at whole
    have cards := congrArg Multiset.card whole
    rw [Multiset.card_add] at cards
    exact nonzero (Multiset.card_eq_zero.mp (Nat.add_eq_left.mp cards))
  · intro keeps
    apply Multiset.coe_eq_coe.mp
    rw [← ended.ledger]
    exact frames_ledger keeps run

/-- **Stopping drains.** In a run in which the generator neither returns nor raises with frames in
hand and no frame arrives that a skip has passed over, by the time the generator has ended it has
yielded the frame of every accepted message, so that of every deleted message whose frame is valid
and new, and the numbered frames in increasing order. -/
theorem stop_drains (consumer : SQSConsumer) (actions : List Action) (final : State)
    (keeps : Meets consumer.step (fun _ state action =>
      ¬ consumer.Loses state action ∧ consumer.NoFramePassedOver state action) [] initial actions)
    (run : consumer.frames actions = some final) (ended : final.Ended) :
    (∀ message ∈ consumer.accepted actions, ∀ frame ∈ consumer.frameOf message,
        frame ∈ final.yielded) ∧
      final.seqs.Pairwise (· < ·) := by
  constructor
  · have kept : Meets consumer.step (fun _ state action => ¬ consumer.Loses state action) []
        initial actions :=
      keeps.of_invariant trivial (fun _ _ _ _ _ _ _ => trivial) fun _ _ _ _ both => both.1
    intro message accepted frame decodes
    apply ((yielded_perm_iff run ended).mpr kept).mem_iff.mpr
    exact List.mem_filterMap.mpr ⟨message, accepted, decodes⟩
  · have ordered : final.InOrder :=
      execute_invariant initial_inOrder
        (fun _ _ _ _ holds both taken => step_inOrder holds both.2 taken) keeps run
    exact ordered.increasing

/-! ## A stop between two yields -/

/-- Two frames come out of order, and the consumer is stopped when both have been yielded. -/
def lateStopRun : List Action :=
  [.next 0, receiveSamples [1, 0] 0, .next 0, .stop, .next 0]

/-- A stop at the last yield loses nothing. -/
theorem stop_drains_late :
    ∃ final, sampleConsumer.frames lateStopRun = some final ∧ final.pc = .returned ∧
      final.seqs = [0, 1] ∧ final.seqs.Pairwise (· < ·) := by
  have reached : (sampleConsumer.frames lateStopRun).map (fun final => (final.pc, final.seqs)) =
      some (.returned, [0, 1]) := by
    decide +kernel
  obtain ⟨final, run, ends⟩ := Option.map_eq_some_iff.mp reached
  simp only [Prod.mk.injEq] at ends
  obtain ⟨returned, seqs⟩ := ends
  exact ⟨final, run, returned, seqs,
    (stop_drains sampleConsumer lateStopRun final (by decide +kernel) run (Or.inl returned)).2⟩

/-- The consumer is stopped while the first of three frames is yielded. -/
def earlyStopRun : List Action := [.next 0, receiveSamples [0, 1, 2] 0, .stop, .next 0]

/-- The generator returns with two frames in hand whose messages are deleted. -/
theorem early_stop_loses :
    ¬ ∀ (consumer : SQSConsumer) (actions : List Action) (final : State),
      consumer.frames actions = some final → final.Ended →
      ∀ message ∈ consumer.accepted actions, Deleted final message →
        ∀ frame ∈ consumer.frameOf message, frame ∈ final.yielded := by
  intro always
  have reached : (sampleConsumer.frames earlyStopRun).map (fun final =>
      (final.pc, final.yielded, decide (Deleted final (sampleMessage 1)))) =
      some (.returned, [(some 0, [0, 0])], true) := by
    decide +kernel
  obtain ⟨final, run, ends⟩ := Option.map_eq_some_iff.mp reached
  simp only [Prod.mk.injEq, decide_eq_true_eq] at ends
  obtain ⟨returned, yielded, deleted⟩ := ends
  have lost := always sampleConsumer earlyStopRun final run (Or.inl returned) (sampleMessage 1)
    (by decide +kernel) deleted (some 1, [0, 0]) (by decide +kernel)
  rw [yielded] at lost
  exact absurd lost (by decide)

end Panakoes.TranscriberStream.SQSConsumer
