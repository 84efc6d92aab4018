import Panakoes.TranscriberStream.FrameKeeping
import Panakoes.TranscriberStream.FrameOrder

/-! # Nothing deliverable waits for a receive

At the start of a receive the frame at `next_seq` is not in the buffer, unless the gap
check after the ordered flush has just moved `next_seq` to a buffered frame: that branch
goes on to the next receive, where the skip on an empty receive flushes at once. Without
such a skip `next_seq` is always the number after the last frame yielded.
-/

namespace Panakoes.TranscriberStream.SQSConsumer

open Transition

variable {consumer : SQSConsumer}

namespace State

/-- No frame that is next in order is held back by a receive. -/
def AwaitsNext (state : State) : Prop :=
  state.pc = .receiving → ∀ next ∈ state.nextSeq, next ∉ state.pending

/-- The gap has lasted as long as it may. -/
def GapOverdue (state : State) (now : ℚ) : Prop :=
  ∃ since ∈ state.gapSince, maxGapWaitSeconds ≤ now - since

instance (state : State) (now : ℚ) : Decidable (state.GapOverdue now) :=
  inferInstanceAs (Decidable (∃ since ∈ state.gapSince, _))

end State

/-- What the message decodes to is dropped or buffered behind the gap: it is neither a frame
without a `seq` nor the frame that is next in order. -/
def BehindGap (consumer : SQSConsumer) (nextSeq : Option Nat) (message : Message) : Prop :=
  match consumer.decode message with
  | .error _ => False
  | .ok .malformed | .ok .stale => True
  | .ok (.frame seq _) => seq ≠ none ∧ seq ≠ nextSeq

/-- The step is an ordered flush that yields nothing and finds the gap overdue. -/
def SkipsUnflushed (consumer : SQSConsumer) (state : State) : Action → Prop
  | .receive (.messages batch) now =>
      state.pc = .receiving ∧ state.stopped = false ∧ batch ≠ [] ∧ state.GapOverdue now ∧
        ∀ message ∈ batch, consumer.BehindGap state.nextSeq message
  | .next now =>
      state.pc = .payloads [] ∧ state.stopped = false ∧ state.GapOverdue now ∧
        ∀ next ∈ state.nextSeq, next ∉ state.pending
  | _ => False

namespace State

/-! ## The invariant -/

/-- `next_seq` follows the last frame yielded, and a gap is open only in front of buffered
frames. -/
structure Aligned (state : State) : Prop where
  follows : state.nextSeq = state.yieldedUpTo.map (· + 1)
  gap : state.gapSince.isSome → state.nextSeq.isSome ∧ state.pending.keys ≠ []

/-- At the head of the receive loop the next frame has not arrived. -/
structure Settled (state : State) : Prop extends Aligned state where
  awaits : ∀ next ∈ state.nextSeq, next ∉ state.pending

/-- The invariant wherever the generator is suspended. -/
def Progressing (state : State) : Prop :=
  match state.pc with
  | .created | .receiving | .sleeping => state.Settled
  | .payloads _ => state.Aligned
  | .flush | .skipFlush => state.Aligned ∧ state.gapSince = none
  | .drain _ | .returned | .raised _ => True

variable {state : State}

theorem Progressing.awaitsNext (progressing : state.Progressing) : state.AwaitsNext := by
  intro receiving
  simp only [Progressing, receiving] at progressing
  exact progressing.awaits

theorem drainNext_progressing (rest : List Nat) : (state.drainNext rest).Progressing := by
  cases rest with
  | nil => trivial
  | cons seq rest =>
      simp only [State.drainNext]
      split <;> trivial

theorem Settled.loopHead (settled : state.Settled) : state.loopHead.Progressing := by
  unfold State.loopHead
  split
  · exact drainNext_progressing _
  · exact ⟨⟨settled.follows, settled.gap⟩, settled.awaits⟩

theorem not_mem_of_lookup {seq : Nat} (missing : state.pending.lookup seq = none) :
    seq ∉ state.pending :=
  AList.lookup_eq_none.mp missing

/-- Popping the frame at `next_seq` with no gap open. -/
theorem popFrame_progressing (closed : state.gapSince = none) (seq : Nat) (pcm : Bytes) {pc : Pc}
    (yielding : pc = .flush ∨ pc = .skipFlush) : (state.popFrame seq pcm pc).Progressing := by
  have aligned : (state.popFrame seq pcm pc).Aligned := by
    refine ⟨rfl, fun opened => ?_⟩
    rw [State.popFrame, State.yieldFrame, closed] at opened
    cases opened
  cases yielding with
  | inl flushing =>
      subst flushing
      exact ⟨aligned, closed⟩
  | inr skipping =>
      subst skipping
      exact ⟨aligned, closed⟩

/-- A gap check that does not skip leaves the next frame awaited. -/
theorem Settled.checkGap (settled : state.Settled) (started : state.nextSeq.isSome) {now : ℚ}
    (early : ¬ state.GapOverdue now) : (state.checkGap now).Settled := by
  unfold State.checkGap
  split
  · exact settled
  · rename_i nonempty
    split
    · exact ⟨⟨settled.follows, fun _ => ⟨started, nonempty⟩⟩, settled.awaits⟩
    · rename_i since opened
      split
      · rename_i overdue
        exact absurd ⟨since, opened, overdue⟩ early
      · exact settled

/-- The ordered flush, if the gap is not overdue when it finds the next frame missing. -/
theorem Aligned.flushLoop (aligned : state.Aligned) {now : ℚ}
    (waits : state.stopped = false → (∀ next ∈ state.nextSeq, next ∉ state.pending) →
      ¬ state.GapOverdue now) : (state.flushLoop now).Progressing := by
  unfold State.flushLoop
  split
  · rename_i unset
    apply Settled.loopHead
    refine ⟨aligned, fun next nextIs => ?_⟩
    rw [unset] at nextIs
    cases nextIs
  · rename_i next nextIs
    split
    · exact popFrame_progressing rfl _ _ (Or.inl rfl)
    · rename_i missing
      have settled : state.Settled := by
        refine ⟨aligned, fun other otherIs => ?_⟩
        cases nextIs.symm.trans otherIs
        exact not_mem_of_lookup missing
      cases stopped : state.stopped with
      | false =>
          apply Settled.loopHead
          exact settled.checkGap (by rw [nextIs]; rfl) (waits stopped settled.awaits)
      | true =>
          have halted : (state.checkGap now).stopped = true := by
            unfold State.checkGap
            split
            · exact stopped
            · split
              · exact stopped
              · split <;> exact stopped
          rw [State.loopHead, halted, if_pos rfl]
          exact drainNext_progressing _

theorem mem_of_min? {lowest : Nat} (lowestIs : state.pending.keys.min? = some lowest) :
    ∃ pcm, state.pending.lookup lowest = some pcm :=
  Option.isSome_iff_exists.mp
    (AList.lookup_isSome.mpr (AList.mem_keys.mpr (List.min?_eq_some_iff.mp lowestIs).1))

theorem keys_eq_nil_of_min? (empty : state.pending.keys.min? = none) : state.pending.keys = [] :=
  List.min?_eq_none_iff.mp empty

theorem Aligned.emitPayloads (aligned : state.Aligned) {now : ℚ} {payloads : List Bytes}
    (waits : payloads = [] → state.stopped = false →
      (∀ next ∈ state.nextSeq, next ∉ state.pending) → ¬ state.GapOverdue now) :
    (state.emitPayloads now payloads).Progressing := by
  cases payloads with
  | cons pcm rest => exact ⟨aligned.follows, aligned.gap⟩
  | nil =>
      simp only [State.emitPayloads, State.enterFlush]
      split
      · rename_i empty
        apply Settled.loopHead
        refine ⟨aligned, fun next _ buffered => ?_⟩
        rw [AList.mem_keys, keys_eq_nil_of_min? empty] at buffered
        cases buffered
      · rename_i lowest lowestIs
        cases nextIs : state.nextSeq with
        | some next =>
            have same : { state with nextSeq := some next } = state := by rw [← nextIs]
            rw [Option.getD_some, same]
            exact aligned.flushLoop (waits rfl)
        | none =>
            obtain ⟨pcm, held⟩ := mem_of_min? lowestIs
            simp only [Option.getD_none, State.flushLoop, held]
            exact popFrame_progressing rfl _ _ (Or.inl rfl)

theorem Aligned.skipFlushLoop (aligned : state.Aligned) (closed : state.gapSince = none) :
    state.skipFlushLoop.Progressing := by
  unfold State.skipFlushLoop
  split
  · rename_i unset
    apply Settled.loopHead
    refine ⟨aligned, fun next nextIs => ?_⟩
    rw [unset] at nextIs
    cases nextIs
  · rename_i next nextIs
    split
    · exact popFrame_progressing closed _ _ (Or.inr rfl)
    · rename_i missing
      apply Settled.loopHead
      refine ⟨aligned, fun other otherIs => ?_⟩
      cases nextIs.symm.trans otherIs
      exact not_mem_of_lookup missing

/-- A skip on an empty receive flushes the frame it moves to. -/
theorem Settled.emptyReceive (settled : state.Settled) (now : ℚ) :
    (state.emptyReceive now).Progressing := by
  unfold State.emptyReceive
  split
  · rename_i gap
    obtain ⟨next, nextIs, nonempty, _⟩ := gap
    split
    · apply Settled.loopHead
      refine ⟨⟨settled.follows, fun _ => ⟨?_, nonempty⟩⟩, settled.awaits⟩
      exact Option.isSome_iff_exists.mpr ⟨next, nextIs⟩
    · split
      · obtain ⟨lowest, lowestIs⟩ := Option.isSome_iff_exists.mp
          (List.isSome_min?_of_ne_nil nonempty)
        obtain ⟨pcm, held⟩ := mem_of_min? lowestIs
        simp only [State.skipFlushLoop, State.skipGap, lowestIs, held]
        exact popFrame_progressing rfl _ _ (Or.inr rfl)
      · exact settled.loopHead
  · exact settled.loopHead

end State

/-! ## One batch -/

/-- A buffer that holds a frame still holds one after a batch. -/
theorem keys_takeIn_ne_nil {yieldedUpTo : Option Nat} {messages : List Message}
    {start final : Intake} (taken : consumer.takeIn yieldedUpTo start messages = .ok final)
    (nonempty : start.pending.keys ≠ []) : final.pending.keys ≠ [] := by
  obtain ⟨seq, member⟩ := List.exists_mem_of_ne_nil _ nonempty
  obtain ⟨pcm, held⟩ :=
    Option.isSome_iff_exists.mp (AList.lookup_isSome.mpr (AList.mem_keys.mpr member))
  have kept : seq ∈ final.pending :=
    AList.lookup_isSome.mp (by rw [lookup_takeIn_of_lookup taken held]; rfl)
  exact List.ne_nil_of_mem (AList.mem_keys.mp kept)

/-- A batch that yields nothing and leaves the next frame missing lies behind the gap. -/
theorem behindGap_of_takeIn {state : State} (aligned : state.Aligned) {batch : List Message}
    {start intake : Intake}
    (taken : consumer.takeIn state.yieldedUpTo start batch = .ok intake)
    (silent : intake.payloads = []) (missing : ∀ next ∈ state.nextSeq, next ∉ intake.pending) :
    ∀ message ∈ batch, consumer.BehindGap state.nextSeq message := by
  intro message member
  obtain ⟨decoded, decodes⟩ := decodes_of_takeIn taken message member
  rw [BehindGap, decodes]
  cases decoded with
  | malformed => trivial
  | stale => trivial
  | frame seq pcm =>
      have numbered : seq ≠ none := by
        intro unnumbered
        subst unnumbered
        have emitted : pcm ∈ consumer.unnumbered batch :=
          List.mem_filterMap.mpr ⟨message, member, by rw [decodes]⟩
        rw [payloads_takeIn taken] at silent
        rw [(List.append_eq_nil_iff.mp silent).2] at emitted
        cases emitted
      refine ⟨numbered, fun isNext => ?_⟩
      obtain ⟨next, arrived⟩ := Option.ne_none_iff_exists'.mp numbered
      subst arrived
      rcases mem_takeIn taken member decodes with seen | buffered
      · obtain ⟨last, lastIs, successor⟩ :=
          Option.map_eq_some_iff.mp (isNext.trans aligned.follows).symm
        simp only [alreadyYielded, lastIs, decide_eq_true_eq] at seen
        omega
      · exact missing next isNext.symm buffered

/-- What lies behind the gap yields nothing and leaves the next frame missing. -/
theorem takeIn_of_behindGap {state : State} (settled : state.Settled) {batch : List Message}
    {start : Intake} (silent : start.payloads = []) (same : start.pending = state.pending)
    (behind : ∀ message ∈ batch, consumer.BehindGap state.nextSeq message) :
    ∃ intake, consumer.takeIn state.yieldedUpTo start batch = .ok intake ∧
      intake.payloads = [] ∧ ∀ next ∈ state.nextSeq, next ∉ intake.pending := by
  cases taken : consumer.takeIn state.yieldedUpTo start batch with
  | error error =>
      obtain ⟨message, member, raises⟩ := takeIn_eq_error taken
      have impossible := behind message member
      rw [BehindGap, raises] at impossible
      exact impossible.elim
  | ok intake =>
      refine ⟨intake, rfl, ?_, fun next nextIs buffered => ?_⟩
      · rw [payloads_takeIn taken, silent, List.nil_append]
        apply List.filterMap_eq_nil_iff.mpr
        intro message member
        have numbered := behind message member
        unfold BehindGap at numbered
        split at numbered
        · exact numbered.elim
        · rename_i decodes
          rw [decodes]
        · rename_i decodes
          rw [decodes]
        · rename_i seq pcm decodes
          rw [decodes]
          cases seq with
          | none => exact absurd rfl numbered.1
          | some _ => rfl
      · obtain ⟨pcm, held⟩ := Option.isSome_iff_exists.mp (AList.lookup_isSome.mpr buffered)
        rcases lookup_takeIn taken held with before | ⟨message, member, decodes, _⟩
        · rw [same] at before
          exact settled.awaits next nextIs (AList.lookup_isSome.mp (by rw [before]; rfl))
        · have later := behind message member
          rw [BehindGap, decodes] at later
          exact later.2 nextIs.symm

theorem batchReceive_progressing {state : State} (settled : state.Settled) {batch : List Message}
    {now : ℚ} (waits : state.stopped = false → state.GapOverdue now →
      ¬ ∀ message ∈ batch, consumer.BehindGap state.nextSeq message) :
    (consumer.batchReceive state batch now).Progressing := by
  unfold batchReceive
  split
  · trivial
  · rename_i intake taken
    apply State.Aligned.emitPayloads
    · refine ⟨settled.follows, fun opened => ?_⟩
      obtain ⟨started, nonempty⟩ := settled.gap opened
      exact ⟨started, keys_takeIn_ne_nil taken nonempty⟩
    · intro silent running missing overdue
      exact waits running overdue (behindGap_of_takeIn settled.toAligned taken silent missing)

/-! ## One step -/

variable {before after : State} {action : Action}

theorem step_progressing (progressing : before.Progressing)
    (flushed : ¬ consumer.SkipsUnflushed before action)
    (taken : consumer.step before action = some after) : after.Progressing := by
  cases consumer.step_effect taken with
  | stop =>
      unfold State.Progressing at progressing ⊢
      cases at_pc : before.pc <;> simp only [at_pc] at progressing ⊢
      all_goals first
        | exact ⟨⟨progressing.follows, progressing.gap⟩, progressing.awaits⟩
        | exact ⟨progressing.follows, progressing.gap⟩
        | exact ⟨⟨progressing.1.follows, progressing.1.gap⟩, progressing.2⟩
  | wake sleeping =>
      simp only [State.Progressing, sleeping] at progressing
      exact progressing.loopHead
  | failed now receiving =>
      simp only [State.Progressing, receiving] at progressing
      exact ⟨⟨progressing.follows, progressing.gap⟩, progressing.awaits⟩
  | empty now receiving =>
      simp only [State.Progressing, receiving] at progressing
      exact progressing.emptyReceive now
  | batch message rest now receiving =>
      simp only [State.Progressing, receiving] at progressing
      apply batchReceive_progressing progressing
      intro running overdue behind
      exact flushed ⟨receiving, running, List.cons_ne_nil _ _, overdue, behind⟩
  | start now created =>
      simp only [State.Progressing, created] at progressing
      exact progressing.loopHead
  | leave now _ _ => trivial
  | payloads now rest yielding running =>
      simp only [State.Progressing, yielding] at progressing
      apply progressing.emitPayloads
      intro last running missing overdue
      subst last
      exact flushed ⟨yielding, running, overdue, missing⟩
  | flush now yielding running =>
      simp only [State.Progressing, yielding] at progressing
      apply progressing.1.flushLoop
      intro _ _ overdue
      obtain ⟨since, opened, _⟩ := overdue
      rw [progressing.2] at opened
      cases opened
  | skipFlush now yielding running =>
      simp only [State.Progressing, yielding] at progressing
      exact progressing.1.skipFlushLoop progressing.2
  | drain now rest draining => exact State.drainNext_progressing rest

/-- An ordered flush that finds the gap overdue moves `next_seq` to a buffered frame and goes on
to the next receive. -/
theorem State.enterFlush_skips {state : State} {now : ℚ} (running : state.stopped = false)
    (aligned : state.Aligned) (missing : ∀ next ∈ state.nextSeq, next ∉ state.pending)
    (overdue : state.GapOverdue now) : ¬ (state.enterFlush now).AwaitsNext := by
  obtain ⟨since, opened, late⟩ := overdue
  obtain ⟨started, nonempty⟩ := aligned.gap (by rw [Option.mem_def.mp opened]; rfl)
  obtain ⟨next, nextIs⟩ := Option.isSome_iff_exists.mp started
  obtain ⟨lowest, lowestIs⟩ := Option.isSome_iff_exists.mp (List.isSome_min?_of_ne_nil nonempty)
  have absent : state.pending.lookup next = none := AList.lookup_eq_none.mpr (missing next nextIs)
  have skips : state.checkGap now = state.skipGap := by
    rw [State.checkGap, if_neg nonempty, Option.mem_def.mp opened]
    exact if_pos late
  have entered : state.enterFlush now = state.flushLoop now := by
    have same : { state with nextSeq := some (state.nextSeq.getD lowest) } = state := by
      rw [nextIs, Option.getD_some, ← nextIs]
    rw [State.enterFlush, lowestIs]
    exact congrArg (State.flushLoop · now) same
  have flushed : state.flushLoop now = { state.skipGap with pc := .receiving } := by
    rw [State.flushLoop, nextIs]
    simp only [absent, skips, State.loopHead]
    exact if_neg (Bool.eq_false_iff.mp running)
  rw [entered, flushed]
  intro awaits
  exact awaits rfl lowest lowestIs (AList.mem_keys.mpr (List.min?_eq_some_iff.mp lowestIs).1)

/-- A step that skips without flushing is taken and holds the frame back. -/
theorem step_skips (progressing : before.Progressing)
    (skips : consumer.SkipsUnflushed before action) :
    ∃ after, consumer.step before action = some after ∧ ¬ after.AwaitsNext := by
  cases action with
  | stop => exact skips.elim
  | wake => exact skips.elim
  | next now =>
      obtain ⟨yielding, running, overdue, missing⟩ := skips
      simp only [State.Progressing, yielding] at progressing
      refine ⟨before.enterFlush now, ?_, State.enterFlush_skips running progressing missing overdue⟩
      simp only [step, resume, yielding, running, Bool.false_eq_true, ↓reduceIte,
        State.emitPayloads]
  | receive received now =>
      cases received with
      | failed => exact skips.elim
      | messages batch =>
          obtain ⟨receiving, running, nonempty, overdue, behind⟩ := skips
          simp only [State.Progressing, receiving] at progressing
          obtain ⟨intake, taken, silent, missing⟩ :=
            @takeIn_of_behindGap _ _ progressing _ ⟨before.pending, [], [], before.staleDropped,
              before.malformedDropped, before.duplicateDropped⟩ rfl rfl behind
          refine ⟨consumer.batchReceive before batch now, ?_, ?_⟩
          · cases batch with
            | nil => exact absurd rfl nonempty
            | cons message rest => simp only [step, receiving, ↓reduceIte]
          · simp only [batchReceive, taken, silent, State.emitPayloads]
            refine State.enterFlush_skips ?_ ?_ ?_ ?_
            · exact running
            · refine ⟨progressing.follows, fun opened => ?_⟩
              obtain ⟨started, held⟩ := progressing.gap opened
              exact ⟨started, keys_takeIn_ne_nil taken held⟩
            · exact missing
            · exact overdue

theorem initial_progressing : initial.Progressing := by
  refine ⟨⟨rfl, fun opened => ?_⟩, fun next nextIs => ?_⟩
  · cases opened
  · cases nextIs

/-- **Receives wait for missing frames only.** In every state that a run passes through, a frame
that is next in order is not left in the buffer by the receive the consumer starts, exactly when
no step of the run is an ordered flush that yields nothing and finds the gap overdue. -/
theorem receives_await_next_iff (consumer : SQSConsumer) (actions : List Action) :
    (∀ taken, taken <+: actions → ∀ state ∈ consumer.frames taken, state.AwaitsNext) ↔
      Meets consumer.step (fun _ state action => ¬ consumer.SkipsUnflushed state action)
        [] initial actions := by
  have quiet : ∀ {state : State}, state.Progressing → ∀ action,
      (∀ after ∈ consumer.step state action, after.AwaitsNext) →
        ¬ consumer.SkipsUnflushed state action := by
    intro state progressing action awaits skips
    obtain ⟨after, taken, held⟩ := step_skips progressing skips
    exact held (awaits after taken)
  have reached := @forall_reached_iff _ _ consumer.step initial State.AwaitsNext [] actions
  refine reached.trans ⟨fun awaits => ?_, fun flushed => ⟨?_, ?_⟩⟩
  · refine awaits.2.of_invariant initial_progressing ?_ ?_
    · exact fun _ _ _ _ holds now taken => step_progressing holds (quiet holds _ now) taken
    · exact fun _ _ action holds now => quiet holds action now
  · exact initial_progressing.awaitsNext
  · refine flushed.of_invariant initial_progressing ?_ ?_
    · exact fun _ _ _ _ holds condition taken => step_progressing holds condition taken
    · exact fun _ _ _ holds condition after taken =>
        (step_progressing holds condition taken).awaitsNext

/-! ## A frame held back -/

/-- Frame 1 is lost, and frame 3 arrives when the gap is overdue. -/
def overdueFrameRun : List Action :=
  [.next 0, receiveSamples [0, 2] 0, .next 0, receiveSamples [3] 3]

/-- The skip leaves the frames 2 and 3 in the buffer while the consumer receives. -/
theorem frame_held_back :
    ¬ ∀ (consumer : SQSConsumer) (actions : List Action) (state : State),
      consumer.frames actions = some state → state.AwaitsNext := by
  intro always
  have reached : (sampleConsumer.frames overdueFrameRun).map (fun state =>
      (state.pc, state.nextSeq, state.pending.keys)) = some (.receiving, some 2, [3, 2]) := by
    decide +kernel
  obtain ⟨state, run, ends⟩ := Option.map_eq_some_iff.mp reached
  simp only [Prod.mk.injEq] at ends
  obtain ⟨receiving, nextIs, keys⟩ := ends
  apply always sampleConsumer overdueFrameRun state run receiving 2 nextIs
  rw [AList.mem_keys, keys]
  decide

end Panakoes.TranscriberStream.SQSConsumer
