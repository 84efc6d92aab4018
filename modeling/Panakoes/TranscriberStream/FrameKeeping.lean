import Panakoes.TranscriberStream.FrameSource

/-! # What the consumer keeps of what it receives

Whatever else arrives, a frame that was received is yielded or still held, and
every message that was received is deleted. This needs that no two frames share a
`seq`, as yielded, buffered or in one batch, and that the generator does not return
with frames it holds.
-/

namespace Panakoes.TranscriberStream.SQSConsumer

open Transition

variable {consumer : SQSConsumer} {messages : List Message}

/-- The audio of the messages without a usable `seq`, in order. -/
def unnumbered (consumer : SQSConsumer) (messages : List Message) : List Bytes :=
  messages.filterMap fun message =>
    match consumer.decode message with
    | .ok (.frame none pcm) => some pcm
    | _ => none

/-- The frames of a batch agree with the frames yielded, buffered and beside them. -/
structure Consistent (consumer : SQSConsumer) (state : State) (batch : List Message) : Prop where
  yielded : ∀ seq pcm, consumer.Sourced batch (some seq) pcm →
    alreadyYielded state.yieldedUpTo seq = true → (some seq, pcm) ∈ state.yielded
  buffered : ∀ seq pcm, consumer.Sourced batch (some seq) pcm →
    ∀ other, state.pending.lookup seq = some other → other = pcm
  beside : ∀ seq pcm, consumer.Sourced batch (some seq) pcm →
    ∀ other, consumer.Sourced batch (some seq) other → other = pcm

/-- The return after `stop()` leaves no frame behind. -/
def ReturnsEmpty (state : State) : Prop :=
  state.stopped = true →
    (∀ rest, state.pc = .payloads rest → rest = [] ∧ state.pending = ∅) ∧
      (state.pc = .flush ∨ state.pc = .skipFlush → state.pending = ∅)

/-! ## One batch -/

theorem payloads_takeIn {yieldedUpTo : Option Nat} {start final : Intake}
    (taken : consumer.takeIn yieldedUpTo start messages = .ok final) :
    final.payloads = start.payloads ++ consumer.unnumbered messages := by
  induction messages generalizing start with
  | nil =>
      cases taken
      exact (List.append_nil _).symm
  | cons message rest ih =>
      simp only [takeIn] at taken
      split at taken
      · cases taken
      · rename_i decoded decodes
        rw [ih taken, unnumbered, unnumbered, List.filterMap_cons, decodes]
        cases decoded with
        | malformed => rfl
        | stale => rfl
        | frame seq pcm =>
            cases seq with
            | none => exact List.append_assoc _ _ _
            | some seq =>
                simp only [Intake.accept]
                split <;> rfl

theorem toDelete_accept (intake : Intake) (yieldedUpTo : Option Nat) (decoded : Decoded) :
    (intake.accept yieldedUpTo decoded).toDelete = intake.toDelete := by
  cases decoded with
  | malformed => rfl
  | stale => rfl
  | frame seq pcm =>
      cases seq with
      | none => rfl
      | some seq =>
          simp only [Intake.accept]
          split <;> rfl

theorem toDelete_takeIn {yieldedUpTo : Option Nat} {start final : Intake}
    (taken : consumer.takeIn yieldedUpTo start messages = .ok final) :
    final.toDelete = start.toDelete ++ messages.flatMap deleteEntry := by
  induction messages generalizing start with
  | nil =>
      cases taken
      exact (List.append_nil _).symm
  | cons message rest ih =>
      simp only [takeIn] at taken
      split at taken
      · cases taken
      · rw [ih taken, toDelete_accept, List.flatMap_cons, List.append_assoc]

/-! ## Yielding -/

namespace State

variable (state : State)

theorem yielded_drainNext (rest : List Nat) : state.yielded <+: (state.drainNext rest).yielded := by
  cases rest with
  | nil => exact List.prefix_rfl
  | cons seq rest =>
      simp only [State.drainNext]
      split
      · exact List.prefix_append _ _
      · exact List.prefix_rfl

theorem yielded_loopHead : state.yielded <+: state.loopHead.yielded := by
  unfold State.loopHead
  split
  · exact state.yielded_drainNext _
  · exact List.prefix_rfl

theorem yielded_checkGap (now : ℚ) : (state.checkGap now).yielded = state.yielded := by
  unfold State.checkGap
  split
  · rfl
  · split
    · rfl
    · split <;> rfl

theorem yielded_flushLoop (now : ℚ) : state.yielded <+: (state.flushLoop now).yielded := by
  unfold State.flushLoop
  split
  · exact state.yielded_loopHead
  · split
    · exact List.prefix_append _ _
    · rw [← state.yielded_checkGap now]
      exact (state.checkGap now).yielded_loopHead

theorem yielded_emitPayloads (now : ℚ) (payloads : List Bytes) :
    state.yielded <+: (state.emitPayloads now payloads).yielded := by
  cases payloads with
  | nil =>
      simp only [State.emitPayloads, State.enterFlush]
      split
      · exact state.yielded_loopHead
      · refine List.IsPrefix.trans ?_ (State.yielded_flushLoop _ now)
        exact List.prefix_rfl
  | cons pcm rest => exact List.prefix_append _ _

theorem yielded_skipFlushLoop : state.yielded <+: state.skipFlushLoop.yielded := by
  unfold State.skipFlushLoop
  split
  · exact state.yielded_loopHead
  · split
    · exact List.prefix_append _ _
    · exact state.yielded_loopHead

theorem yielded_emptyReceive (now : ℚ) : state.yielded <+: (state.emptyReceive now).yielded := by
  unfold State.emptyReceive
  split
  · split
    · exact State.yielded_loopHead { state with gapSince := some now }
    · split
      · exact state.skipGap.yielded_skipFlushLoop
      · exact state.yielded_loopHead
  · exact state.yielded_loopHead

end State

/-- A step takes back no frame. -/
theorem step_yielded {before after : State} {action : Action}
    (taken : consumer.step before action = some after) : before.yielded <+: after.yielded := by
  cases consumer.step_effect taken with
  | stop | failed now _ | leave now _ _ => exact List.prefix_rfl
  | wake _ | start now _ => exact before.yielded_loopHead
  | empty now _ => exact before.yielded_emptyReceive now
  | batch message rest now _ =>
      unfold batchReceive
      split
      · exact List.prefix_rfl
      · refine List.IsPrefix.trans ?_ (State.yielded_emitPayloads _ now _)
        exact List.prefix_rfl
  | payloads now rest _ _ => exact before.yielded_emitPayloads now _
  | flush now _ _ => exact before.yielded_flushLoop now
  | skipFlush now _ _ => exact before.yielded_skipFlushLoop
  | drain now rest _ => exact before.yielded_drainNext _

/-! ## The invariant -/

namespace State

/-- The audio yielded without a `seq`, in order. -/
def unnumbered (state : State) : List Bytes :=
  (state.yielded.filter fun entry => entry.1 = none).map Prod.snd

/-- Every frame received is yielded, buffered or `waiting`, and every message
received is in a delete request. -/
structure Keeps (consumer : SQSConsumer) (messages : List Message) (waiting : List Bytes)
    (state : State) : Prop where
  numbered : ∀ seq pcm, consumer.Sourced messages (some seq) pcm →
    (some seq, pcm) ∈ state.yielded ∨ state.pending.lookup seq = some pcm
  unnumbered : state.unnumbered ++ waiting = consumer.unnumbered messages
  deleted : ∀ message ∈ messages, ∀ entry ∈ deleteEntry message,
    ∃ request ∈ state.deleteRequests, entry ∈ request

/-- What is held, wherever the generator is suspended or has ended. -/
def Keeping (consumer : SQSConsumer) (messages : List Message) (state : State) : Prop :=
  match state.pc with
  | .payloads rest => state.Keeps consumer messages rest
  | .drain rest =>
      state.Keeps consumer messages [] ∧ (∀ seq ∈ rest, seq ∈ state.pending) ∧
        ∀ seq pcm, state.pending.lookup seq = some pcm →
          seq ∈ rest ∨ (some seq, pcm) ∈ state.yielded
  | .returned =>
      state.Keeps consumer messages [] ∧
        ∀ seq pcm, state.pending.lookup seq = some pcm → (some seq, pcm) ∈ state.yielded
  | .raised _ => False
  | _ => state.Keeps consumer messages []

variable {state : State} {waiting : List Bytes}

theorem Keeps.yieldNumbered (keeps : state.Keeps consumer messages waiting) (seq : Nat)
    (pcm : Bytes) (pc : Pc) :
    (state.yieldFrame (some seq) pcm pc).Keeps consumer messages waiting := by
  refine ⟨fun other bytes sourced => ?_, ?_, keeps.deleted⟩
  · rcases keeps.numbered other bytes sourced with before | buffered
    · exact Or.inl (List.mem_append_left _ before)
    · exact Or.inr buffered
  · have same : (state.yieldFrame (some seq) pcm pc).unnumbered = state.unnumbered := by
      simp [State.unnumbered, State.yieldFrame]
    rw [same, keeps.unnumbered]

theorem Keeps.yieldUnnumbered {pcm : Bytes} {rest : List Bytes}
    (keeps : state.Keeps consumer messages (pcm :: rest)) (pc : Pc) :
    (state.yieldFrame none pcm pc).Keeps consumer messages rest := by
  refine ⟨fun other bytes sourced => ?_, ?_, keeps.deleted⟩
  · rcases keeps.numbered other bytes sourced with before | buffered
    · exact Or.inl (List.mem_append_left _ before)
    · exact Or.inr buffered
  · have one : (state.yieldFrame none pcm pc).unnumbered = state.unnumbered ++ [pcm] := by
      simp [State.unnumbered, State.yieldFrame]
    rw [one, List.append_assoc, List.singleton_append, keeps.unnumbered]

theorem Keeps.popFrame (keeps : state.Keeps consumer messages waiting) {seq : Nat} {pcm : Bytes}
    (held : state.pending.lookup seq = some pcm) (pc : Pc) :
    (state.popFrame seq pcm pc).Keeps consumer messages waiting := by
  refine ⟨fun other bytes sourced => ?_, ?_, keeps.deleted⟩
  · rcases keeps.numbered other bytes sourced with before | buffered
    · exact Or.inl (List.mem_append_left _ before)
    · by_cases same : other = seq
      · subst same
        rw [held] at buffered
        cases buffered
        exact Or.inl (List.mem_append_right _ List.mem_cons_self)
      · exact Or.inr ((AList.lookup_erase_ne same).trans buffered)
  · exact (keeps.yieldNumbered seq pcm pc).unnumbered

/-- What the generator keeps besides frames does not matter. -/
theorem Keeps.adjust (keeps : state.Keeps consumer messages waiting) (nextSeq : Option Nat)
    (gapSince : Option ℚ) (gapSkipped : Nat) (pc : Pc) :
    State.Keeps consumer messages waiting { state with nextSeq, gapSince, gapSkipped, pc } :=
  ⟨keeps.numbered, keeps.unnumbered, keeps.deleted⟩

/-- The generator may return with nothing buffered. -/
theorem Keeps.returned (keeps : state.Keeps consumer messages [])
    (empty : state.pending = ∅) :
    State.Keeping consumer messages { state with pc := .returned } := by
  refine ⟨⟨keeps.numbered, keeps.unnumbered, keeps.deleted⟩, fun seq pcm held => ?_⟩
  rw [empty] at held
  cases held

theorem Keeps.drainNext (keeps : state.Keeps consumer messages []) {rest : List Nat}
    (present : ∀ seq ∈ rest, seq ∈ state.pending)
    (covered : ∀ seq pcm, state.pending.lookup seq = some pcm →
      seq ∈ rest ∨ (some seq, pcm) ∈ state.yielded) :
    (state.drainNext rest).Keeping consumer messages := by
  cases rest with
  | nil =>
      refine ⟨keeps.adjust _ _ _ _, fun seq pcm held => ?_⟩
      exact (covered seq pcm held).resolve_left List.not_mem_nil
  | cons first rest =>
      obtain ⟨pcm, held⟩ :=
        Option.isSome_iff_exists.mp (AList.lookup_isSome.mpr (present first List.mem_cons_self))
      simp only [State.drainNext, held]
      refine ⟨keeps.yieldNumbered first pcm _,
        fun seq member => present seq (List.mem_cons_of_mem _ member), fun seq bytes found => ?_⟩
      rcases covered seq bytes found with member | before
      · rcases List.mem_cons.mp member with rfl | later
        · have same : bytes = pcm := Option.some.inj (found.symm.trans held)
          exact Or.inr (List.mem_append_right _ (by rw [same]; exact List.mem_cons_self))
        · exact Or.inl later
      · exact Or.inr (List.mem_append_left _ before)

theorem Keeps.loopHead (keeps : state.Keeps consumer messages []) :
    state.loopHead.Keeping consumer messages := by
  unfold State.loopHead
  split
  · apply keeps.drainNext
    · intro seq member
      exact AList.mem_keys.mpr ((List.mem_insertionSort _).mp member)
    · intro seq pcm held
      refine Or.inl ((List.mem_insertionSort _).mpr ?_)
      exact AList.mem_keys.mp (AList.lookup_isSome.mp (by rw [held]; rfl))
  · exact keeps.adjust _ _ _ _

theorem Keeps.checkGap (keeps : state.Keeps consumer messages waiting) (now : ℚ) :
    (state.checkGap now).Keeps consumer messages waiting := by
  unfold State.checkGap
  split
  · exact keeps
  · split
    · exact keeps.adjust _ _ _ _
    · split
      · exact keeps.adjust _ _ _ _
      · exact keeps

theorem Keeps.flushLoop (keeps : state.Keeps consumer messages []) (now : ℚ) :
    (state.flushLoop now).Keeping consumer messages := by
  unfold State.flushLoop
  split
  · exact keeps.loopHead
  · split
    · rename_i held
      have unblocked : State.Keeps consumer messages [] { state with gapSince := none } :=
        keeps.adjust _ _ _ _
      exact unblocked.popFrame held .flush
    · exact (keeps.checkGap now).loopHead

theorem Keeps.emitPayloads {payloads : List Bytes}
    (keeps : state.Keeps consumer messages payloads) (now : ℚ) :
    (state.emitPayloads now payloads).Keeping consumer messages := by
  cases payloads with
  | nil =>
      simp only [State.emitPayloads, State.enterFlush]
      split
      · exact keeps.loopHead
      · apply Keeps.flushLoop
        exact keeps.adjust _ _ _ _
  | cons pcm rest => exact keeps.yieldUnnumbered _

theorem Keeps.skipFlushLoop (keeps : state.Keeps consumer messages []) :
    state.skipFlushLoop.Keeping consumer messages := by
  unfold State.skipFlushLoop
  split
  · exact keeps.loopHead
  · split
    · rename_i held
      exact keeps.popFrame held .skipFlush
    · exact keeps.loopHead

theorem Keeps.emptyReceive (keeps : state.Keeps consumer messages []) (now : ℚ) :
    (state.emptyReceive now).Keeping consumer messages := by
  unfold State.emptyReceive
  split
  · split
    · apply Keeps.loopHead
      exact keeps.adjust _ _ _ _
    · split
      · apply Keeps.skipFlushLoop
        exact keeps.adjust _ _ _ _
      · exact keeps.loopHead
  · exact keeps.loopHead

theorem Keeping.keeps (keeping : state.Keeping consumer messages) :
    ∃ waiting, (waiting ≠ [] → state.pc = .payloads waiting) ∧
      state.Keeps consumer messages waiting := by
  unfold Keeping at keeping
  split at keeping
  · rename_i rest at_pc
    exact ⟨rest, fun _ => at_pc, keeping⟩
  · exact ⟨[], absurd rfl, keeping.1⟩
  · exact ⟨[], absurd rfl, keeping.1⟩
  · exact keeping.elim
  · exact ⟨[], absurd rfl, keeping⟩

theorem Keeping.calm (keeping : state.Keeping consumer messages) (error : PyError) :
    state.pc ≠ .raised error := by
  intro raised
  simp only [Keeping, raised] at keeping

/-- Once the generator has returned, what is buffered has been yielded. -/
theorem Keeping.drained (keeping : state.Keeping consumer messages)
    (returned : state.pc = .returned) {seq : Nat} {pcm : Bytes}
    (held : state.pending.lookup seq = some pcm) : (some seq, pcm) ∈ state.yielded := by
  simp only [Keeping, returned] at keeping
  exact keeping.2 seq pcm held

/-- `stop()` changes nothing that is held. -/
theorem Keeping.stop (keeping : state.Keeping consumer messages) :
    State.Keeping consumer messages { state with stopped := true } := by
  have moved : ∀ waiting pc, state.Keeps consumer messages waiting →
      State.Keeps consumer messages waiting { state with stopped := true, pc } :=
    fun _ _ keeps => ⟨keeps.numbered, keeps.unnumbered, keeps.deleted⟩
  unfold Keeping at keeping ⊢
  cases at_pc : state.pc <;> simp only [at_pc] at keeping ⊢
  case drain => exact ⟨moved _ _ keeping.1, keeping.2⟩
  case returned => exact ⟨moved _ _ keeping.1, keeping.2⟩
  all_goals exact moved _ _ keeping

end State

/-- A batch that decodes and is consistent with what is held is kept. -/
theorem batchReceive_keeping {state : State} {batch : List Message}
    (keeps : state.Keeps consumer messages [])
    (calm : ∀ message ∈ batch, ∃ decoded, consumer.decode message = .ok decoded)
    (consistent : consumer.Consistent state batch) (now : ℚ) :
    (consumer.batchReceive state batch now).Keeping consumer (messages ++ batch) := by
  unfold batchReceive
  split
  · rename_i error taken
    obtain ⟨message, member, raises⟩ := takeIn_eq_error taken
    obtain ⟨decoded, decodes⟩ := calm message member
    rw [decodes] at raises
    cases raises
  · rename_i intake taken
    apply State.Keeps.emitPayloads
    refine ⟨?_, ?_, ?_⟩
    · rintro seq pcm ⟨message, member, decodes⟩
      rcases List.mem_append.mp member with before | arrived
      · rcases keeps.numbered seq pcm ⟨message, before, decodes⟩ with yielded | buffered
        · exact Or.inl yielded
        · exact Or.inr (lookup_takeIn_of_lookup taken buffered)
      · have sourced : consumer.Sourced batch (some seq) pcm := ⟨message, arrived, decodes⟩
        rcases mem_takeIn taken arrived decodes with seen | buffered
        · exact Or.inl (consistent.yielded seq pcm sourced seen)
        · obtain ⟨other, held⟩ := Option.isSome_iff_exists.mp (AList.lookup_isSome.mpr buffered)
          have same : other = pcm := by
            rcases lookup_takeIn taken held with before | ⟨source, among, carries, -⟩
            · exact consistent.buffered seq pcm sourced other before
            · exact consistent.beside seq pcm sourced other ⟨source, among, carries⟩
          rw [same] at held
          exact Or.inr held
    · have before := keeps.unnumbered
      rw [List.append_nil] at before
      rw [payloads_takeIn taken, List.nil_append]
      exact (congrArg (· ++ consumer.unnumbered batch) before).trans List.filterMap_append.symm
    · intro message member entry deleting
      rcases List.mem_append.mp member with before | arrived
      · obtain ⟨request, sent, among⟩ := keeps.deleted message before entry deleting
        exact ⟨request, List.mem_append_left _ sent, among⟩
      · have among : entry ∈ intake.toDelete := by
          rw [toDelete_takeIn taken]
          exact List.mem_append_right _ (List.mem_flatMap.mpr ⟨message, arrived, deleting⟩)
        refine ⟨intake.toDelete, List.mem_append_right _ ?_, among⟩
        rw [if_neg (List.ne_nil_of_mem among)]
        exact List.mem_singleton_self _

theorem initial_keeping : initial.Keeping consumer [] :=
  ⟨by rintro _ _ ⟨_, member, -⟩; exact absurd member List.not_mem_nil, rfl,
    fun _ member => absurd member List.not_mem_nil⟩

/-- Every step keeps what was received. -/
theorem step_keeping {before after : State} {action : Action}
    (keeping : before.Keeping consumer messages)
    (calm : ∀ message ∈ action.messages, ∃ decoded, consumer.decode message = .ok decoded)
    (consistent : consumer.Consistent before action.messages)
    (empty : ∀ now, action = .next now → ReturnsEmpty before)
    (taken : consumer.step before action = some after) :
    after.Keeping consumer (messages ++ action.messages) := by
  cases consumer.step_effect taken with
  | batch message rest now receiving =>
      simp only [State.Keeping, receiving] at keeping
      exact batchReceive_keeping keeping calm consistent now
  | stop =>
      simp only [Action.messages, List.append_nil]
      exact keeping.stop
  | wake sleeping =>
      simp only [Action.messages, List.append_nil]
      simp only [State.Keeping, sleeping] at keeping
      exact keeping.loopHead
  | failed now receiving =>
      simp only [Action.messages, List.append_nil]
      simp only [State.Keeping, receiving] at keeping
      exact keeping.adjust _ _ _ _
  | empty now receiving =>
      simp only [Action.messages, List.append_nil]
      simp only [State.Keeping, receiving] at keeping
      exact keeping.emptyReceive now
  | start now created =>
      simp only [Action.messages, List.append_nil]
      simp only [State.Keeping, created] at keeping
      exact keeping.loopHead
  | leave now stopped yielding =>
      simp only [Action.messages, List.append_nil]
      rcases yielding with ⟨rest, yielding⟩ | yielding | yielding
      · simp only [State.Keeping, yielding] at keeping
        obtain ⟨rfl, none⟩ := (empty now rfl stopped).1 _ yielding
        exact keeping.returned none
      · simp only [State.Keeping, yielding] at keeping
        exact keeping.returned ((empty now rfl stopped).2 (Or.inl yielding))
      · simp only [State.Keeping, yielding] at keeping
        exact keeping.returned ((empty now rfl stopped).2 (Or.inr yielding))
  | payloads now rest yielding _ =>
      simp only [Action.messages, List.append_nil]
      simp only [State.Keeping, yielding] at keeping
      exact keeping.emitPayloads now
  | flush now yielding _ =>
      simp only [Action.messages, List.append_nil]
      simp only [State.Keeping, yielding] at keeping
      exact keeping.flushLoop now
  | skipFlush now yielding _ =>
      simp only [Action.messages, List.append_nil]
      simp only [State.Keeping, yielding] at keeping
      exact keeping.skipFlushLoop
  | drain now rest draining =>
      simp only [Action.messages, List.append_nil]
      simp only [State.Keeping, draining] at keeping
      exact keeping.1.drainNext keeping.2.1 keeping.2.2

end Panakoes.TranscriberStream.SQSConsumer
