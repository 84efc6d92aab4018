import Panakoes.TranscriberStream.SqsIntake

/-! # The order of the frames yielded

While no frame arrives that a skip has passed over, the consumer yields frames
in strictly increasing `seq` order. The invariant `Live` says that everything
buffered lies at or above `next_seq`, which lies above everything yielded. A
skip on a non-empty receive moves `next_seq` up without yielding, and until the
next receive the duplicate test still compares with the last yielded `seq`: a
frame that arrives in between is buffered below `next_seq` and comes out after
higher ones.
-/

namespace Panakoes.TranscriberStream.SQSConsumer

open Transition

variable {consumer : SQSConsumer}

/-- A `seq` above everything yielded that the last skip has passed over. -/
def State.PassedOver (state : State) (seq : Nat) : Prop :=
  ∃ last ∈ state.yieldedUpTo, ∃ next ∈ state.nextSeq, last < seq ∧ seq < next

instance (state : State) (seq : Nat) : Decidable (state.PassedOver seq) :=
  inferInstanceAs (Decidable (∃ last ∈ state.yieldedUpTo, ∃ next ∈ state.nextSeq, _))

/-- No received frame is one that the last skip has passed over. -/
def NoFramePassedOver (consumer : SQSConsumer) (state : State) : Action → Prop
  | .receive (.messages batch) _ =>
      ∀ message ∈ batch, ∀ seq ∈ consumer.seqOf message, ¬ state.PassedOver seq
  | _ => True

instance (state : State) (action : Action) :
    Decidable (consumer.NoFramePassedOver state action) :=
  match action with
  | .receive (.messages batch) _ =>
      inferInstanceAs (Decidable (∀ message ∈ batch, ∀ seq ∈ consumer.seqOf message, _))
  | .receive .failed _ | .stop | .wake | .next _ => .isTrue trivial

namespace State

/-- The invariant of the receive loop. -/
structure Live (state : State) : Prop where
  increasing : state.seqs.Pairwise (· < ·)
  bounded : ∀ seq ∈ state.seqs, ∃ last ∈ state.yieldedUpTo, seq ≤ last
  ahead : ∀ last ∈ state.yieldedUpTo, ∃ next ∈ state.nextSeq, last < next
  started : ∀ next ∈ state.nextSeq, ∃ last, last ∈ state.yieldedUpTo
  buffered : ∀ next ∈ state.nextSeq, ∀ seq ∈ state.pending, next ≤ seq

/-- The invariant of the draining loop, whose remaining frames are `rest`. -/
structure Draining (state : State) (rest : List Nat) : Prop where
  increasing : state.seqs.Pairwise (· < ·)
  sorted : rest.Pairwise (· < ·)
  above : ∀ seq ∈ state.seqs, ∀ later ∈ rest, seq < later

/-- The invariant of the generator wherever it is suspended or has ended. -/
def InOrder (state : State) : Prop :=
  match state.pc with
  | .drain rest => state.Draining rest
  | .returned => state.seqs.Pairwise (· < ·)
  | .raised _ => state.seqs.Pairwise (· < ·)
  | _ => state.Live

theorem InOrder.increasing {state : State} (ordered : state.InOrder) :
    state.seqs.Pairwise (· < ·) := by
  unfold InOrder at ordered
  split at ordered
  · exact ordered.increasing
  · exact ordered
  · exact ordered
  · exact ordered.increasing

/-- Calling `stop()` changes nothing that the order depends on. -/
theorem InOrder.stop {state : State} (ordered : state.InOrder) :
    InOrder { state with stopped := true } := by
  cases at_pc : state.pc with
  | drain rest =>
      simp only [InOrder, at_pc] at ordered ⊢
      exact ⟨ordered.increasing, ordered.sorted, ordered.above⟩
  | returned =>
      simp only [InOrder, at_pc] at ordered ⊢
      exact ordered
  | raised error =>
      simp only [InOrder, at_pc] at ordered ⊢
      exact ordered
  | _ =>
      simp only [InOrder, at_pc] at ordered ⊢
      exact ⟨ordered.increasing, ordered.bounded, ordered.ahead, ordered.started,
        ordered.buffered⟩

@[simp] theorem seqs_yieldFrame (state : State) (seq : Nat) (pcm : Bytes) (pc : Pc) :
    (state.yieldFrame (some seq) pcm pc).seqs = state.seqs ++ [seq] := by
  simp [seqs, yieldFrame]

@[simp] theorem seqs_yieldFrame_none (state : State) (pcm : Bytes) (pc : Pc) :
    (state.yieldFrame none pcm pc).seqs = state.seqs := by
  simp [seqs, yieldFrame]

@[simp] theorem seqs_popFrame (state : State) (seq : Nat) (pcm : Bytes) (pc : Pc) :
    (state.popFrame seq pcm pc).seqs = state.seqs ++ [seq] := by
  simp [seqs, popFrame, yieldFrame]

/-! ## Each piece of the generator keeps the order -/

theorem pairwise_concat {seqs : List Nat} {seq : Nat} (increasing : seqs.Pairwise (· < ·))
    (above : ∀ earlier ∈ seqs, earlier < seq) : (seqs ++ [seq]).Pairwise (· < ·) := by
  rw [List.pairwise_append]
  refine ⟨increasing, List.pairwise_singleton _ _, ?_⟩
  intro earlier member later single
  rw [List.mem_singleton] at single
  subst single
  exact above earlier member

theorem Draining.drainNext {state : State} {rest : List Nat} (draining : state.Draining rest) :
    (state.drainNext rest).InOrder := by
  cases rest with
  | nil => exact draining.increasing
  | cons seq rest =>
      obtain ⟨above, sorted⟩ := List.pairwise_cons.mp draining.sorted
      simp only [State.drainNext]
      split
      · refine ⟨?_, sorted, ?_⟩
        · rw [seqs_yieldFrame]
          exact pairwise_concat draining.increasing
            fun earlier member => draining.above earlier member seq List.mem_cons_self
        · intro earlier member later remaining
          rw [seqs_yieldFrame] at member
          rcases List.mem_append.mp member with before | new
          · exact draining.above earlier before later (List.mem_cons_of_mem _ remaining)
          · rw [List.mem_singleton] at new
            subst new
            exact above later remaining
      · exact draining.increasing

theorem sortedPending_pairwise (state : State) : state.sortedPending.Pairwise (· < ·) := by
  have nodup : state.sortedPending.Nodup :=
    (List.perm_insertionSort _ _).nodup_iff.mpr state.pending.keys_nodup
  have sorted : state.sortedPending.Pairwise (· ≤ ·) := List.pairwise_insertionSort _ _
  exact (sorted.and nodup).imp fun both => Nat.lt_of_le_of_ne both.1 both.2

theorem mem_sortedPending {state : State} {seq : Nat} :
    seq ∈ state.sortedPending ↔ seq ∈ state.pending := by
  rw [AList.mem_keys]
  exact (List.perm_insertionSort _ _).mem_iff

/-- Everything buffered lies above everything yielded. -/
theorem Live.below_pending {state : State} (live : state.Live) {earlier later : Nat}
    (yielded : earlier ∈ state.seqs) (buffered : later ∈ state.pending) : earlier < later := by
  obtain ⟨last, lastIs, le⟩ := live.bounded earlier yielded
  obtain ⟨next, nextIs, lt⟩ := live.ahead last lastIs
  have := live.buffered next nextIs later buffered
  omega

theorem Live.loopHead {state : State} (live : state.Live) : state.loopHead.InOrder := by
  unfold State.loopHead
  split
  · apply Draining.drainNext
    exact ⟨live.increasing, state.sortedPending_pairwise, fun earlier yielded later sorted =>
      live.below_pending yielded (mem_sortedPending.mp sorted)⟩
  · exact ⟨live.increasing, live.bounded, live.ahead, live.started, live.buffered⟩

/-- Popping a frame that lies above everything yielded and below the rest of the
buffer. -/
theorem live_popFrame {state : State} {next : Nat} (increasing : state.seqs.Pairwise (· < ·))
    (above : ∀ earlier ∈ state.seqs, earlier < next)
    (least : ∀ seq ∈ state.pending, next ≤ seq) (pcm : Bytes) (pc : Pc) :
    (state.popFrame next pcm pc).Live := by
  refine ⟨?_, ?_, ?_, fun _ _ => ⟨next, rfl⟩, ?_⟩
  · rw [seqs_popFrame]
    exact pairwise_concat increasing above
  · intro seq member
    refine ⟨next, rfl, ?_⟩
    rw [seqs_popFrame] at member
    rcases List.mem_append.mp member with before | new
    · exact Nat.le_of_lt (above seq before)
    · rw [List.mem_singleton] at new
      exact Nat.le_of_eq new
  · intro last lastIs
    cases lastIs
    exact ⟨next + 1, rfl, Nat.lt_succ_self next⟩
  · intro after afterIs seq remaining
    cases afterIs
    obtain ⟨different, earlier⟩ := AList.mem_erase.mp remaining
    have := least seq earlier
    omega

/-- Popping the frame at `next_seq`. -/
theorem Live.popFrame {state : State} (live : state.Live) {next : Nat} {pcm : Bytes}
    (nextIs : state.nextSeq = some next) (held : state.pending.lookup next = some pcm) (pc : Pc) :
    (state.popFrame next pcm pc).Live := by
  have buffered : next ∈ state.pending := AList.lookup_isSome.mp (by rw [held]; rfl)
  exact live_popFrame live.increasing (fun _ yielded => live.below_pending yielded buffered)
    (live.buffered next nextIs) pcm pc

/-- A skip continues at the lowest buffered frame. -/
theorem Live.skipGap {state : State} (live : state.Live) (nonempty : state.pending.keys ≠ [])
    (started : ∃ last, last ∈ state.yieldedUpTo) : state.skipGap.Live := by
  obtain ⟨lowest, lowestIs⟩ : ∃ lowest, state.pending.keys.min? = some lowest :=
    Option.isSome_iff_exists.mp (List.isSome_min?_of_ne_nil nonempty)
  obtain ⟨member, least⟩ := List.min?_eq_some_iff.mp lowestIs
  refine ⟨live.increasing, live.bounded, ?_, ?_, ?_⟩
  · intro last lastIs
    obtain ⟨next, nextIs, lt⟩ := live.ahead last lastIs
    have := live.buffered next nextIs lowest (AList.mem_keys.mpr member)
    exact ⟨lowest, lowestIs, by omega⟩
  · intro _ _
    exact started
  · intro next nextIs seq buffered
    have same : lowest = next := Option.some.inj (lowestIs.symm.trans nextIs)
    subst same
    exact least seq (AList.mem_keys.mp buffered)

theorem Live.checkGap {state : State} (live : state.Live) (now : ℚ)
    (started : ∃ last, last ∈ state.yieldedUpTo) : (state.checkGap now).Live := by
  unfold State.checkGap
  split
  · exact live
  · rename_i nonempty
    split
    · exact ⟨live.increasing, live.bounded, live.ahead, live.started, live.buffered⟩
    · split
      · exact live.skipGap nonempty started
      · exact live

theorem Live.flushLoop {state : State} (live : state.Live) (now : ℚ) :
    (state.flushLoop now).InOrder := by
  unfold State.flushLoop
  split
  · exact live.loopHead
  · rename_i next nextIs
    split
    · rename_i pcm held
      have unblocked : { state with gapSince := none }.Live :=
        ⟨live.increasing, live.bounded, live.ahead, live.started, live.buffered⟩
      exact unblocked.popFrame nextIs held .flush
    · exact (live.checkGap now (live.started next nextIs)).loopHead

/-- Before `next_seq` is set nothing has been yielded. -/
theorem Live.seqs_eq_nil {state : State} (live : state.Live) (unset : state.nextSeq = none) :
    state.seqs = [] := by
  apply List.eq_nil_iff_forall_not_mem.mpr
  intro seq member
  obtain ⟨last, lastIs, _⟩ := live.bounded seq member
  obtain ⟨next, nextIs, _⟩ := live.ahead last lastIs
  rw [unset] at nextIs
  cases nextIs

theorem Live.enterFlush {state : State} (live : state.Live) (now : ℚ) :
    (state.enterFlush now).InOrder := by
  unfold State.enterFlush
  split
  · exact live.loopHead
  · rename_i lowest lowestIs
    obtain ⟨member, least⟩ := List.min?_eq_some_iff.mp lowestIs
    cases nextIs : state.nextSeq with
    | some next =>
        have same : { state with nextSeq := some next } = state := by rw [← nextIs]
        rw [Option.getD_some, same]
        exact live.flushLoop now
    | none =>
        obtain ⟨pcm, held⟩ := Option.isSome_iff_exists.mp
          (AList.lookup_isSome.mpr (AList.mem_keys.mpr member))
        simp only [Option.getD_none, State.flushLoop, held]
        have unset : State.seqs { state with nextSeq := some lowest, gapSince := none } = [] :=
          live.seqs_eq_nil nextIs
        apply live_popFrame
        · rw [unset]
          exact List.Pairwise.nil
        · rw [unset]
          exact fun _ yielded => absurd yielded List.not_mem_nil
        · exact fun seq buffered => least seq (AList.mem_keys.mp buffered)

theorem Live.emitPayloads {state : State} (live : state.Live) (now : ℚ) (payloads : List Bytes) :
    (state.emitPayloads now payloads).InOrder := by
  cases payloads with
  | nil => exact live.enterFlush now
  | cons pcm rest =>
      refine ⟨?_, ?_, live.ahead, live.started, live.buffered⟩
      · rw [State.emitPayloads, seqs_yieldFrame_none]
        exact live.increasing
      · rw [State.emitPayloads, seqs_yieldFrame_none]
        exact live.bounded

theorem Live.skipFlushLoop {state : State} (live : state.Live) :
    state.skipFlushLoop.InOrder := by
  unfold State.skipFlushLoop
  split
  · exact live.loopHead
  · rename_i next nextIs
    split
    · rename_i pcm held
      exact live.popFrame nextIs held .skipFlush
    · exact live.loopHead

theorem Live.emptyReceive {state : State} (live : state.Live) (now : ℚ) :
    (state.emptyReceive now).InOrder := by
  unfold State.emptyReceive
  split
  · rename_i gap
    obtain ⟨next, nextIs, nonempty, _⟩ := gap
    split
    · apply Live.loopHead
      exact ⟨live.increasing, live.bounded, live.ahead, live.started, live.buffered⟩
    · split
      · exact (live.skipGap nonempty (live.started next nextIs)).skipFlushLoop
      · exact live.loopHead
  · exact live.loopHead

end State

/-- A batch without passed-over frames keeps the order. -/
theorem batchReceive_inOrder {state : State} (live : state.Live) {messages : List Message}
    (now : ℚ)
    (kept : ∀ message ∈ messages, ∀ seq ∈ consumer.seqOf message, ¬ state.PassedOver seq) :
    (consumer.batchReceive state messages now).InOrder := by
  unfold batchReceive
  split
  · exact live.increasing
  · rename_i intake taken
    apply State.Live.emitPayloads
    refine ⟨live.increasing, live.bounded, live.ahead, live.started, ?_⟩
    intro next nextIs seq buffered
    obtain ⟨pcm, held⟩ := Option.isSome_iff_exists.mp (AList.lookup_isSome.mpr buffered)
    rcases lookup_takeIn taken held with before | ⟨message, member, decodes, unseen⟩
    · exact live.buffered next nextIs seq (AList.lookup_isSome.mp (by rw [before]; rfl))
    · -- A new frame below `next_seq` lies above the last yielded one, so it was passed over.
      by_contra below
      obtain ⟨last, lastIs⟩ := live.started next nextIs
      apply kept message member seq (seqOf_of_decode decodes)
      refine ⟨last, lastIs, next, nextIs, ?_, Nat.lt_of_not_le below⟩
      rw [Option.mem_def] at lastIs
      simpa [alreadyYielded, lastIs] using unseen

theorem initial_inOrder : initial.InOrder :=
  ⟨List.Pairwise.nil, fun _ member => absurd member List.not_mem_nil,
    by rintro _ ⟨⟩, by rintro _ ⟨⟩, by rintro _ ⟨⟩⟩

/-- One step keeps the order unless it receives a passed-over frame. -/
theorem step_inOrder {before after : State} {action : Action} (ordered : before.InOrder)
    (kept : consumer.NoFramePassedOver before action)
    (taken : consumer.step before action = some after) : after.InOrder := by
  cases consumer.step_effect taken with
  | stop => exact ordered.stop
  | wake sleeping =>
      simp only [State.InOrder, sleeping] at ordered
      exact ordered.loopHead
  | failed now receiving =>
      simp only [State.InOrder, receiving] at ordered
      exact ⟨ordered.increasing, ordered.bounded, ordered.ahead, ordered.started,
        ordered.buffered⟩
  | empty now receiving =>
      simp only [State.InOrder, receiving] at ordered
      exact ordered.emptyReceive now
  | batch message rest now receiving =>
      simp only [State.InOrder, receiving] at ordered
      exact batchReceive_inOrder ordered now kept
  | start now created =>
      simp only [State.InOrder, created] at ordered
      exact ordered.loopHead
  | leave now _ yielding =>
      rcases yielding with ⟨rest, yielding⟩ | yielding | yielding
      all_goals
        simp only [State.InOrder, yielding] at ordered
        exact ordered.increasing
  | payloads now rest yielding _ =>
      simp only [State.InOrder, yielding] at ordered
      exact ordered.emitPayloads now _
  | flush now yielding _ =>
      simp only [State.InOrder, yielding] at ordered
      exact ordered.flushLoop now
  | skipFlush now yielding _ =>
      simp only [State.InOrder, yielding] at ordered
      exact ordered.skipFlushLoop
  | drain now rest draining =>
      simp only [State.InOrder, draining] at ordered
      exact ordered.drainNext

/-- **Frames come out in order.** In every run of the consumer in which no
receive brings a frame above the last yielded `seq` and below a `next_seq` that
a skip has moved up, the frames yielded have strictly increasing `seq`. -/
theorem frames_increasing {actions : List Action} {final : State}
    (kept : Meets consumer.step (fun _ state action => consumer.NoFramePassedOver state action)
      [] initial actions)
    (run : consumer.frames actions = some final) : final.seqs.Pairwise (· < ·) := by
  have ordered : final.InOrder := by
    refine execute_invariant initial_inOrder ?_ kept run
    exact fun _ _ _ _ holds condition taken => step_inOrder holds condition taken
  exact ordered.increasing

/-! ## Runs on a few frames -/

/-- The envelope text of a frame of two zero bytes. -/
def sampleBody (seq : Nat) : String :=
  "\x7b\"seq\": " ++ toString seq ++ ", \"pcm_b64\": \"AAA=\"\x7d"

/-- Decoders that know the texts of the first few sample frames. -/
def sampleDecoders : Decoders where
  loads body :=
    match (List.range 8).find? fun seq => sampleBody seq = body with
    | some seq => .ok (.dict [("seq", .int seq), ("pcm_b64", .str "AAA=")])
    | none => .error .jsonDecodeError
  timestamp _ := .error .valueError
  b64decode text := if text = "AAA=" then .ok [0, 0] else .error .valueError

/-- A consumer of sample frames. -/
def sampleConsumer : SQSConsumer := ⟨sampleDecoders, 0⟩

/-- The queue message that carries a sample frame. -/
def sampleMessage (seq : Nat) : Message := ⟨some (toString seq), some "receipt", sampleBody seq⟩

/-- Receive sample frames at a clock reading. -/
def receiveSamples (seqs : List Nat) (now : ℚ) : Action :=
  .receive (.messages (seqs.map sampleMessage)) now

/-- Frame 1 is lost: the consumer waits two seconds for it and goes on at 2. -/
def lostFrameRun : List Action :=
  [.next 0, receiveSamples [0, 2] 0, .next 0, receiveSamples [3] 3, receiveSamples [4] 4,
    .next 4, .next 4, .next 4]

/-- The order theorem on a run that skips a lost frame. -/
theorem frames_increasing_lostFrame :
    ∃ final, sampleConsumer.frames lostFrameRun = some final ∧ final.seqs = [0, 2, 3, 4] ∧
      final.seqs.Pairwise (· < ·) := by
  have reached : (sampleConsumer.frames lostFrameRun).map State.seqs = some [0, 2, 3, 4] := by
    decide +kernel
  obtain ⟨final, run, seqs⟩ := Option.map_eq_some_iff.mp reached
  exact ⟨final, run, seqs, frames_increasing (by decide +kernel) run⟩

/-- Frame 1 arrives after the skip to 2 and before the next flush. -/
def lateFrameRun : List Action :=
  [.next 0, receiveSamples [0, 2] 0, .next 0, receiveSamples [3] 3, receiveSamples [1] 4,
    .next 4, .next 4, .stop, .receive (.messages []) 5]

/-- A late frame that the skip has passed over is yielded after higher ones. -/
theorem late_frame_out_of_order :
    ¬ ∀ (consumer : SQSConsumer) (actions : List Action) (final : State),
      (∀ message ∈ delivered actions, (consumer.seqOf message).isSome) →
      MonotoneClock actions → consumer.frames actions = some final →
      final.seqs.Pairwise (· < ·) := by
  intro always
  have reached : (sampleConsumer.frames lateFrameRun).map State.seqs = some [0, 2, 3, 1] := by
    decide +kernel
  obtain ⟨final, run, seqs⟩ := Option.map_eq_some_iff.mp reached
  have increasing := always sampleConsumer lateFrameRun final (by decide +kernel)
    (by decide +kernel) run
  rw [seqs] at increasing
  exact absurd increasing (by decide)

end Panakoes.TranscriberStream.SQSConsumer
