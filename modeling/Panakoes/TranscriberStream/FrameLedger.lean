import Mathlib.Data.Multiset.AddSub
import Panakoes.TranscriberStream.SqsIntake

/-! # What becomes of the frames taken in

The frames of the messages that a batch accepts are, all taken together, the frames yielded
and the frames still held: no step adds one, and only two steps drop any, the return after
`stop()` and an exception while a batch is decoded.
-/

namespace Panakoes.TranscriberStream.SQSConsumer

open Transition

variable {consumer : SQSConsumer}

/-! ## Accepted messages -/

/-- The frame a message decodes to. -/
def frameOf (consumer : SQSConsumer) (message : Message) : Option (Option Nat × Bytes) :=
  match consumer.decode message with
  | .ok (.frame seq pcm) => some (seq, pcm)
  | _ => none

theorem frameOf_eq_some {message : Message} {seq : Option Nat} {pcm : Bytes} :
    consumer.frameOf message = some (seq, pcm) ↔
      consumer.decode message = .ok (.frame seq pcm) := by
  unfold frameOf
  split
  · rename_i decodes
    rw [decodes]
    simp
  · rename_i other
    exact iff_of_false (Option.some_ne_none _).symm (other seq pcm)

/-- The decoded message is a frame that is neither yielded nor buffered already. -/
def Intake.Takes (intake : Intake) (yieldedUpTo : Option Nat) : Decoded → Prop
  | .malformed | .stale => False
  | .frame none _ => True
  | .frame (some seq) _ => ¬ (alreadyYielded yieldedUpTo seq ∨ seq ∈ intake.pending)

instance (intake : Intake) (yieldedUpTo : Option Nat) :
    DecidablePred (intake.Takes yieldedUpTo)
  | .malformed | .stale => .isFalse id
  | .frame none _ => .isTrue trivial
  | .frame (some _) _ => inferInstanceAs (Decidable (¬ _))

/-- The messages of a batch whose frames are taken in, in the order of the batch. -/
def acceptedOf (consumer : SQSConsumer) (yieldedUpTo : Option Nat) (intake : Intake) :
    List Message → List Message
  | [] => []
  | message :: rest =>
      match consumer.decode message with
      | .error _ => []
      | .ok decoded =>
          let accepted := intake.accept yieldedUpTo decoded
          (if intake.Takes yieldedUpTo decoded then [message] else []) ++
            acceptedOf consumer yieldedUpTo
              { accepted with toDelete := accepted.toDelete ++ deleteEntry message } rest

/-- What the loop over a batch starts from. -/
def State.intake (state : State) : Intake :=
  ⟨state.pending, [], [], state.staleDropped, state.malformedDropped, state.duplicateDropped⟩

/-- The messages that a step accepts. A batch that raises is neither deleted nor flushed. -/
def acceptedBy (consumer : SQSConsumer) (state : State) : Action → List Message
  | .receive (.messages batch) _ =>
      match consumer.takeIn state.yieldedUpTo state.intake batch with
      | .ok _ => consumer.acceptedOf state.yieldedUpTo state.intake batch
      | .error _ => []
  | _ => []

/-- The messages accepted over a run, in order. -/
def accepted (consumer : SQSConsumer) (actions : List Action) : List Message :=
  emitted consumer.step consumer.acceptedBy initial actions

/-- The frames of the messages, in any order. -/
def framesOf (consumer : SQSConsumer) (messages : List Message) :
    Multiset (Option Nat × Bytes) :=
  ↑(messages.filterMap consumer.frameOf)

theorem framesOf_append (first second : List Message) :
    consumer.framesOf (first ++ second) = consumer.framesOf first + consumer.framesOf second := by
  rw [framesOf, List.filterMap_append, ← Multiset.coe_add]
  rfl

theorem mem_framesOf {messages : List Message} {seq : Option Nat} {pcm : Bytes} :
    (seq, pcm) ∈ consumer.framesOf messages ↔
      ∃ message ∈ messages, consumer.decode message = .ok (.frame seq pcm) := by
  simp only [framesOf, Multiset.mem_coe, List.mem_filterMap, frameOf_eq_some]

/-! ## The buffer as a collection of frames -/

/-- The buffered frames, in any order. -/
def buffered (pending : Pending) : Multiset (Option Nat × Bytes) :=
  ↑(pending.entries.map fun entry => (some entry.1, entry.2))

theorem mem_buffered {pending : Pending} {seq : Nat} {pcm : Bytes} :
    (some seq, pcm) ∈ buffered pending ↔ pending.lookup seq = some pcm := by
  rw [← Option.mem_def, AList.mem_lookup_iff, buffered, Multiset.mem_coe, List.mem_map]
  constructor
  · intro found
    obtain ⟨entry, member, same⟩ := found
    obtain ⟨seqs, pcms⟩ := Prod.mk.inj same
    cases seqs
    cases pcms
    exact member
  · exact fun member => ⟨_, member, rfl⟩

theorem card_buffered (pending : Pending) : (buffered pending).card = pending.keys.length := by
  rw [buffered, Multiset.coe_card, List.length_map, AList.keys, List.keys, List.length_map]

theorem buffered_insert {pending : Pending} {seq : Nat} (fresh : seq ∉ pending) (pcm : Bytes) :
    buffered (pending.insert seq pcm) = buffered pending + {(some seq, pcm)} := by
  rw [buffered, AList.entries_insert_of_notMem fresh, List.map_cons, ← Multiset.cons_coe,
    ← Multiset.singleton_add, Multiset.add_comm]
  rfl

theorem buffered_erase {pending : Pending} {seq : Nat} {pcm : Bytes}
    (held : pending.lookup seq = some pcm) :
    buffered pending = {(some seq, pcm)} + buffered (pending.erase seq) := by
  have present : seq ∈ pending.entries.keys := AList.lookup_isSome.mp (by rw [held]; rfl)
  obtain ⟨bytes, first, second, _, whole, erased⟩ := List.exists_of_kerase present
  have member : (⟨seq, bytes⟩ : Sigma fun _ : Nat => Bytes) ∈ pending.entries := by
    rw [whole]
    exact List.mem_append_right _ List.mem_cons_self
  have same : bytes = pcm := Option.some.inj ((AList.mem_lookup_iff.mpr member).symm.trans held)
  subst same
  have remaining : (pending.erase seq).entries = first ++ second := erased
  rw [buffered, buffered, whole, remaining, Multiset.singleton_add, Multiset.cons_coe]
  exact Multiset.coe_eq_coe.mpr (List.perm_middle.map _)

/-- The frames of the buffer with the given numbers, in turn. -/
def drained (pending : Pending) (seqs : List Nat) : List (Option Nat × Bytes) :=
  seqs.filterMap fun seq => (pending.lookup seq).map fun pcm => (some seq, pcm)

/-- All numbers of the buffer, in any order, drain the whole buffer. -/
theorem drained_perm {pending : Pending} {seqs : List Nat} (all : seqs.Perm pending.keys) :
    (drained pending seqs : Multiset (Option Nat × Bytes)) = buffered pending := by
  have whole : drained pending pending.keys =
      pending.entries.map fun entry => (some entry.1, entry.2) := by
    rw [drained, AList.keys, List.keys, List.filterMap_map, ← List.filterMap_eq_map]
    apply List.filterMap_congr
    intro entry member
    simp only [Function.comp_apply, Option.mem_def.mp (AList.mem_lookup_iff.mpr member),
      Option.map_some]
  rw [buffered, ← whole]
  exact Multiset.coe_eq_coe.mpr (all.filterMap _)

/-! ## One batch -/

/-- What an intake holds: the buffer and the frames to yield at once. -/
def Intake.frames (intake : Intake) : Multiset (Option Nat × Bytes) :=
  buffered intake.pending + ↑(intake.payloads.map fun pcm => ((none : Option Nat), pcm))

/-- How many messages the intake has dropped. -/
def Intake.dropped (intake : Intake) : Nat :=
  intake.staleDropped + intake.malformedDropped + intake.duplicateDropped

/-- The frame of a message that is taken is added to the intake; any other message is counted. -/
theorem Intake.accept_cases (intake : Intake) (yieldedUpTo : Option Nat) (decoded : Decoded) :
    (intake.Takes yieldedUpTo decoded ∧
        (intake.accept yieldedUpTo decoded).dropped = intake.dropped ∧
        ∃ seq pcm, decoded = .frame seq pcm ∧
          (intake.accept yieldedUpTo decoded).frames = intake.frames + {(seq, pcm)}) ∨
      (¬ intake.Takes yieldedUpTo decoded ∧
        (intake.accept yieldedUpTo decoded).dropped = intake.dropped + 1 ∧
        (intake.accept yieldedUpTo decoded).frames = intake.frames) := by
  cases decoded with
  | malformed =>
      refine Or.inr ⟨id, ?_, rfl⟩
      simp only [Intake.accept, Intake.dropped]
      omega
  | stale =>
      refine Or.inr ⟨id, ?_, rfl⟩
      simp only [Intake.accept, Intake.dropped]
      omega
  | frame arrived pcm =>
      cases arrived with
      | none =>
          refine Or.inl ⟨trivial, rfl, none, pcm, rfl, ?_⟩
          rw [Intake.accept, Intake.frames, Intake.frames, List.map_append, ← Multiset.coe_add,
            ← Multiset.add_assoc]
          rfl
      | some seq =>
          simp only [Intake.accept]
          split
          · rename_i known
            refine Or.inr ⟨fun taken => taken known, ?_, rfl⟩
            simp only [Intake.dropped]
            omega
          · rename_i fresh
            refine Or.inl ⟨fresh, rfl, some seq, pcm, rfl, ?_⟩
            rw [Intake.frames, Intake.frames, buffered_insert fun held => fresh (Or.inr held),
              Multiset.add_assoc, Multiset.add_assoc, Multiset.add_comm {(some seq, pcm)}]

/-- **One batch.** Every message of a batch is accepted or counted as dropped, and the frames of
the accepted ones are added to what the intake holds. -/
theorem takeIn_ledger {yieldedUpTo : Option Nat} {messages : List Message} {start final : Intake}
    (taken : consumer.takeIn yieldedUpTo start messages = .ok final) :
    final.frames =
        start.frames + consumer.framesOf (consumer.acceptedOf yieldedUpTo start messages) ∧
      final.dropped + (consumer.acceptedOf yieldedUpTo start messages).length =
        start.dropped + messages.length := by
  induction messages generalizing start with
  | nil =>
      cases taken
      exact ⟨(Multiset.add_zero _).symm, rfl⟩
  | cons message rest ih =>
      simp only [takeIn] at taken
      split at taken
      · cases taken
      · rename_i decoded decodes
        obtain ⟨frames, count⟩ := ih taken
        simp only [acceptedOf, decodes, framesOf_append, List.length_append, List.length_cons]
        rw [frames]
        rcases start.accept_cases yieldedUpTo decoded with
          ⟨takes, dropped, seq, pcm, rfl, added⟩ | ⟨drops, dropped, same⟩
        · rw [if_pos takes]
          constructor
          · have one : consumer.framesOf [message] = {(seq, pcm)} := by
              rw [framesOf, List.filterMap_cons, frameOf_eq_some.mpr decodes]
              rfl
            rw [one, ← Multiset.add_assoc, ← added]
            rfl
          · have kept := dropped
            simp only [Intake.dropped] at kept count ⊢
            simp only [List.length_singleton]
            omega
        · rw [if_neg drops]
          constructor
          · have none : consumer.framesOf [] = 0 := rfl
            rw [none, Multiset.zero_add]
            exact congrArg (· + _) same
          · have kept := dropped
            simp only [Intake.dropped] at kept count ⊢
            simp only [List.length_nil]
            omega

/-! ## One step -/

namespace State

/-- The frames that the generator holds where it is suspended. -/
def held (state : State) : Multiset (Option Nat × Bytes) :=
  match state.pc with
  | .payloads rest => buffered state.pending + ↑(rest.map fun pcm => ((none : Option Nat), pcm))
  | .drain rest => ↑(drained state.pending rest)
  | .returned | .raised _ => 0
  | .created | .receiving | .sleeping | .flush | .skipFlush => buffered state.pending

/-- The frames yielded and held. -/
def ledger (state : State) : Multiset (Option Nat × Bytes) := ↑state.yielded + state.held

/-- The frames yielded and buffered. -/
def total (state : State) : Multiset (Option Nat × Bytes) :=
  ↑state.yielded + buffered state.pending

/-- How many messages have been dropped. -/
def dropped (state : State) : Nat :=
  state.staleDropped + state.malformedDropped + state.duplicateDropped

/-- The state accounts for these frames and this many dropped messages, and what it is draining is
in the buffer. -/
structure Accounts (state : State) (frames : Multiset (Option Nat × Bytes)) (dropped : Nat) :
    Prop where
  ledger : state.ledger = frames
  dropped : state.dropped = dropped
  drains : ∀ rest, state.pc = .drain rest → ∀ seq ∈ rest, seq ∈ state.pending

variable {state : State}

theorem coe_concat (yielded : List (Option Nat × Bytes)) (frame : Option Nat × Bytes) :
    ((yielded ++ [frame] : List _) : Multiset (Option Nat × Bytes)) = ↑yielded + {frame} := by
  rw [← Multiset.coe_add]
  rfl

theorem accounts_popFrame {seq : Nat} {pcm : Bytes}
    (found : state.pending.lookup seq = some pcm) {pc : Pc}
    (yielding : pc = .flush ∨ pc = .skipFlush) :
    (state.popFrame seq pcm pc).Accounts state.total state.dropped := by
  have moved : (state.popFrame seq pcm pc).total = state.total := by
    rw [total, total, buffered_erase found, ← Multiset.add_assoc, ← coe_concat]
    rfl
  rcases yielding with flushing | skipping
  · subst flushing
    exact ⟨moved, rfl, fun _ => Pc.noConfusion⟩
  · subst skipping
    exact ⟨moved, rfl, fun _ => Pc.noConfusion⟩

theorem accounts_drainNext {rest : List Nat} (present : ∀ seq ∈ rest, seq ∈ state.pending) :
    (state.drainNext rest).Accounts (↑state.yielded + ↑(drained state.pending rest))
      state.dropped := by
  cases rest with
  | nil => exact ⟨rfl, rfl, fun _ => Pc.noConfusion⟩
  | cons seq rest =>
      obtain ⟨now, later⟩ := List.forall_mem_cons.mp present
      obtain ⟨pcm, found⟩ := Option.isSome_iff_exists.mp (AList.lookup_isSome.mpr now)
      simp only [State.drainNext, found]
      refine ⟨?_, rfl, ?_⟩
      · have first : (drained state.pending (seq :: rest) : Multiset (Option Nat × Bytes)) =
            {(some seq, pcm)} + ↑(drained state.pending rest) := by
          rw [drained, List.filterMap_cons, found, Multiset.singleton_add, Multiset.cons_coe]
          rfl
        rw [first, ← Multiset.add_assoc, ← coe_concat]
        rfl
      · intro remaining same
        cases same
        exact later

theorem accounts_loopHead : state.loopHead.Accounts state.total state.dropped := by
  have all : state.sortedPending.Perm state.pending.keys := List.perm_insertionSort _ _
  unfold State.loopHead
  split
  · rw [total, ← drained_perm all]
    apply accounts_drainNext
    intro seq member
    exact AList.mem_keys.mpr (all.mem_iff.mp member)
  · exact ⟨rfl, rfl, fun _ => Pc.noConfusion⟩

theorem checkGap_eq (state : State) (now : ℚ) :
    ∃ nextSeq gapSince gapSkipped,
      state.checkGap now = { state with nextSeq, gapSince, gapSkipped } := by
  unfold State.checkGap
  split
  · exact ⟨state.nextSeq, state.gapSince, state.gapSkipped, rfl⟩
  · split
    · exact ⟨state.nextSeq, some now, state.gapSkipped, rfl⟩
    · split
      · exact ⟨_, _, _, rfl⟩
      · exact ⟨state.nextSeq, state.gapSince, state.gapSkipped, rfl⟩

theorem accounts_flushLoop (now : ℚ) :
    (state.flushLoop now).Accounts state.total state.dropped := by
  unfold State.flushLoop
  split
  · exact accounts_loopHead
  · split
    · rename_i found
      exact @accounts_popFrame { state with gapSince := none } _ _ found _ (Or.inl rfl)
    · obtain ⟨nextSeq, gapSince, gapSkipped, checked⟩ := state.checkGap_eq now
      rw [checked]
      exact @accounts_loopHead { state with nextSeq, gapSince, gapSkipped }

theorem accounts_emitPayloads (now : ℚ) (payloads : List Bytes) :
    (state.emitPayloads now payloads).Accounts
      (state.total + ↑(payloads.map fun pcm => ((none : Option Nat), pcm))) state.dropped := by
  cases payloads with
  | nil =>
      rw [List.map_nil, Multiset.coe_nil, Multiset.add_zero]
      simp only [State.emitPayloads, State.enterFlush]
      split
      · exact accounts_loopHead
      · rename_i lowest _
        exact @accounts_flushLoop { state with nextSeq := some (state.nextSeq.getD lowest) } now
  | cons pcm rest =>
      refine ⟨?_, rfl, fun _ => Pc.noConfusion⟩
      rw [List.map_cons, ← Multiset.cons_coe, ← Multiset.singleton_add, total,
        Multiset.add_assoc, ← Multiset.add_assoc (buffered _), Multiset.add_comm (buffered _),
        Multiset.add_assoc, ← Multiset.add_assoc, ← coe_concat]
      rfl

theorem accounts_skipFlushLoop : state.skipFlushLoop.Accounts state.total state.dropped := by
  unfold State.skipFlushLoop
  split
  · exact accounts_loopHead
  · split
    · rename_i found
      exact accounts_popFrame found (Or.inr rfl)
    · exact accounts_loopHead

theorem accounts_emptyReceive (now : ℚ) :
    (state.emptyReceive now).Accounts state.total state.dropped := by
  unfold State.emptyReceive
  split
  · split
    · exact @accounts_loopHead { state with gapSince := some now }
    · split
      · exact @accounts_skipFlushLoop state.skipGap
      · exact accounts_loopHead
  · exact accounts_loopHead

end State

/-- The step drops frames that are held: the generator returns after a yield with frames left, or
a message raises while frames are buffered. -/
def Loses (consumer : SQSConsumer) (state : State) : Action → Prop
  | .next _ =>
      state.stopped = true ∧
        match state.pc with
        | .payloads rest => rest ≠ [] ∨ state.pending.keys ≠ []
        | .flush | .skipFlush => state.pending.keys ≠ []
        | _ => False
  | .receive (.messages batch) _ =>
      state.pc = .receiving ∧ state.pending.keys ≠ [] ∧
        ∃ message ∈ batch, (consumer.decode message).isOk = false
  | _ => False

instance (state : State) (action : Action) : Decidable (consumer.Loses state action) :=
  match action with
  | .next _ =>
      haveI : Decidable (match state.pc with
          | .payloads rest => rest ≠ [] ∨ state.pending.keys ≠ []
          | .flush | .skipFlush => state.pending.keys ≠ []
          | _ => False) :=
        match state.pc with
        | .payloads _ => inferInstanceAs (Decidable (_ ∨ _))
        | .flush | .skipFlush => inferInstanceAs (Decidable (_ ≠ _))
        | .created | .receiving | .sleeping | .drain _ | .returned | .raised _ => .isFalse id
      inferInstanceAs (Decidable (_ ∧ _))
  | .receive (.messages _) _ => inferInstanceAs (Decidable (_ ∧ _ ∧ ∃ message ∈ _, _))
  | .receive .failed _ | .stop | .wake => .isFalse id

theorem buffered_of_keys {pending : Pending} (empty : pending.keys = []) :
    buffered pending = 0 := by
  rw [← Multiset.card_eq_zero, card_buffered, empty]
  rfl

variable {before after : State} {action : Action}

theorem batchReceive_accounts {state : State} {batch : List Message} {intake : Intake} (now : ℚ)
    (taken : consumer.takeIn state.yieldedUpTo state.intake batch = .ok intake) :
    (consumer.batchReceive state batch now).Accounts
      (state.total +
        consumer.framesOf (consumer.acceptedOf state.yieldedUpTo state.intake batch))
      intake.dropped := by
  obtain ⟨frames, _⟩ := takeIn_ledger taken
  have begun : state.intake.frames = buffered state.pending := Multiset.add_zero _
  rw [State.total, Multiset.add_assoc, ← begun, ← frames, Intake.frames, ← Multiset.add_assoc]
  unfold batchReceive
  split
  · rename_i raised
    cases taken.symm.trans raised
  · rename_i other same
    cases taken.symm.trans same
    apply State.accounts_emitPayloads

/-- A batch that raises ends the generator where it stands. -/
theorem batchReceive_of_error {state : State} {batch : List Message} {error : PyError} (now : ℚ)
    (raises : consumer.takeIn state.yieldedUpTo state.intake batch = .error error) :
    consumer.batchReceive state batch now = { state with pc := .raised error } := by
  unfold batchReceive
  split
  · rename_i same
    cases raises.symm.trans same
    rfl
  · rename_i same
    cases raises.symm.trans same

/-- A step that drops no frame it holds accounts for what it held and what it accepts. -/
theorem step_ledger (drains : ∀ rest, before.pc = .drain rest → ∀ seq ∈ rest, seq ∈ before.pending)
    (keeps : ¬ consumer.Loses before action)
    (taken : consumer.step before action = some after) :
    after.ledger = before.ledger + consumer.framesOf (consumer.acceptedBy before action) ∧
      ∀ rest, after.pc = .drain rest → ∀ seq ∈ rest, seq ∈ after.pending := by
  have quiet : ∀ {frames dropped}, after.Accounts frames dropped → frames = before.ledger →
      consumer.acceptedBy before action = [] →
      after.ledger = before.ledger + consumer.framesOf (consumer.acceptedBy before action) ∧
        ∀ rest, after.pc = .drain rest → ∀ seq ∈ rest, seq ∈ after.pending := by
    intro frames dropped accounts same none
    refine ⟨?_, accounts.drains⟩
    rw [none, accounts.ledger, same]
    exact (Multiset.add_zero _).symm
  have ledger_of_pc : ∀ {pc}, before.pc = pc → before.ledger = State.ledger { before with pc } := by
    intro pc at_pc
    rw [← at_pc]
  cases consumer.step_effect taken with
  | stop => exact ⟨(Multiset.add_zero _).symm, drains⟩
  | wake sleeping => exact quiet State.accounts_loopHead (ledger_of_pc sleeping).symm rfl
  | failed now receiving =>
      rw [ledger_of_pc receiving]
      exact ⟨(Multiset.add_zero _).symm, fun _ => Pc.noConfusion⟩
  | empty now receiving =>
      exact quiet (State.accounts_emptyReceive now) (ledger_of_pc receiving).symm rfl
  | batch message rest now receiving =>
      cases consumed : consumer.takeIn before.yieldedUpTo before.intake (message :: rest) with
      | ok intake =>
          have accounts := batchReceive_accounts now consumed
          refine ⟨?_, accounts.drains⟩
          rw [accounts.ledger, ledger_of_pc receiving, acceptedBy, consumed]
          rfl
      | error error =>
          -- The exception leaves nothing behind that the buffer held.
          have empty : before.pending.keys = [] := by
            by_contra nonempty
            obtain ⟨other, member, raises⟩ := takeIn_eq_error consumed
            exact keeps ⟨receiving, nonempty, other, member, by rw [raises]; rfl⟩
          rw [batchReceive_of_error now consumed, ledger_of_pc receiving, acceptedBy, consumed]
          refine ⟨?_, fun _ => Pc.noConfusion⟩
          simp only [State.ledger, State.held, buffered_of_keys empty]
          exact (Multiset.add_zero _).symm
  | start now created => exact quiet State.accounts_loopHead (ledger_of_pc created).symm rfl
  | leave now stopped yielding =>
      have nothing : before.held = 0 := by
        rcases yielding with ⟨rest, yielding⟩ | yielding | yielding
        all_goals
          simp only [Loses, yielding, stopped, true_and, ne_eq, not_or, not_not] at keeps
        · simp only [State.held, yielding, keeps.1, buffered_of_keys keeps.2, List.map_nil,
            Multiset.coe_nil, Multiset.add_zero]
        · simp only [State.held, yielding, buffered_of_keys keeps]
        · simp only [State.held, yielding, buffered_of_keys keeps]
      refine ⟨?_, fun _ => Pc.noConfusion⟩
      rw [State.ledger, State.ledger, nothing]
      exact (Multiset.add_zero _).symm
  | payloads now rest yielding running =>
      refine quiet (State.accounts_emitPayloads now rest) ?_ rfl
      rw [ledger_of_pc yielding, State.total, Multiset.add_assoc]
      rfl
  | flush now yielding running =>
      exact quiet (State.accounts_flushLoop now) (ledger_of_pc yielding).symm rfl
  | skipFlush now yielding running =>
      exact quiet State.accounts_skipFlushLoop (ledger_of_pc yielding).symm rfl
  | drain now rest draining =>
      refine quiet (State.accounts_drainNext (drains rest draining)) ?_ rfl
      rw [ledger_of_pc draining]
      rfl

/-- A step that drops held frames ends the generator. -/
theorem ended_of_loses (loses : consumer.Loses before action)
    (taken : consumer.step before action = some after) : after.Ended := by
  cases consumer.step_effect taken with
  | stop => exact loses.elim
  | wake _ => exact loses.elim
  | failed now _ => exact loses.elim
  | empty now _ =>
      obtain ⟨_, _, message, member, _⟩ := loses
      exact absurd member List.not_mem_nil
  | batch message rest now receiving =>
      obtain ⟨_, _, other, member, raises⟩ := loses
      apply Or.inr
      unfold batchReceive
      split
      · exact ⟨_, rfl⟩
      · rename_i taken
        obtain ⟨decoded, decodes⟩ := decodes_of_takeIn taken other member
        rw [decodes] at raises
        cases raises
  | leave now _ _ => exact Or.inl rfl
  | start now at_pc =>
      simp only [Loses, at_pc, and_false] at loses
  | payloads now rest at_pc running =>
      cases running.symm.trans loses.1
  | flush now at_pc running =>
      cases running.symm.trans loses.1
  | skipFlush now at_pc running =>
      cases running.symm.trans loses.1
  | drain now rest at_pc =>
      simp only [Loses, at_pc, and_false] at loses

/-- Unless the generator ends, every message of a step is accepted or counted as dropped. -/
theorem step_dropped (taken : consumer.step before action = some after) (goes : ¬ after.Ended) :
    after.dropped + (consumer.acceptedBy before action).length =
      before.dropped + action.messages.length := by
  have quiet : ∀ {frames}, after.Accounts frames before.dropped →
      consumer.acceptedBy before action = [] → action.messages = [] →
      after.dropped + (consumer.acceptedBy before action).length =
        before.dropped + action.messages.length := by
    intro frames accounts none silent
    rw [none, silent, accounts.dropped]
  cases consumer.step_effect taken with
  | stop => rfl
  | wake _ => exact quiet State.accounts_loopHead rfl rfl
  | failed now _ => rfl
  | empty now _ => exact quiet (State.accounts_emptyReceive now) rfl rfl
  | batch message rest now receiving =>
      cases consumed : consumer.takeIn before.yieldedUpTo before.intake (message :: rest) with
      | ok intake =>
          rw [(batchReceive_accounts now consumed).dropped, acceptedBy, consumed]
          exact (takeIn_ledger consumed).2
      | error error =>
          rw [batchReceive_of_error now consumed] at goes
          exact absurd (Or.inr ⟨error, rfl⟩) goes
  | start now _ => exact quiet State.accounts_loopHead rfl rfl
  | leave now _ _ => exact absurd (Or.inl rfl) goes
  | payloads now rest _ _ => exact quiet (State.accounts_emitPayloads now rest) rfl rfl
  | flush now _ _ => exact quiet (State.accounts_flushLoop now) rfl rfl
  | skipFlush now _ _ => exact quiet State.accounts_skipFlushLoop rfl rfl
  | drain now rest _ =>
      cases rest with
      | nil => rfl
      | cons seq rest =>
          simp only [State.drainNext]
          split <;> rfl

theorem ended_of_step (ended : before.Ended) (taken : consumer.step before action = some after) :
    after.Ended := by
  obtain ⟨-, rfl⟩ := consumer.step_of_ended ended taken
  exact ended

/-! ## Runs -/

variable {actions : List Action} {final : State}

theorem accepted_concat {past : List Action} (run : consumer.frames past = some before) :
    consumer.accepted (past ++ [action]) =
      consumer.accepted past ++ consumer.acceptedBy before action :=
  emitted_concat _ _ run

/-- A run that has not ended has dropped no frame that it held. -/
theorem keeps_of_alive (run : consumer.frames actions = some final) (goes : ¬ final.Ended) :
    Meets consumer.step (fun _ state action => ¬ consumer.Loses state action) [] initial
      actions := by
  induction actions using List.reverseRecOn generalizing final with
  | nil => trivial
  | append_singleton past action ih =>
      obtain ⟨before, reached, taken⟩ := (execute_concat_eq_some _).mp run
      have earlier := ih reached fun ended => goes (ended_of_step ended taken)
      refine Meets.append.mpr ⟨earlier, fun middle same => ?_⟩
      cases reached.symm.trans same
      exact ⟨fun loses => goes (ended_of_loses loses taken), fun _ _ => trivial⟩

/-- **The ledger.** In a run that drops no frame it holds, the frames yielded and held are those
of the messages accepted. -/
theorem frames_ledger
    (keeps : Meets consumer.step (fun _ state action => ¬ consumer.Loses state action) [] initial
      actions)
    (run : consumer.frames actions = some final) :
    final.ledger = consumer.framesOf (consumer.accepted actions) := by
  have account : final.ledger = consumer.framesOf (consumer.accepted actions) ∧
      ∀ rest, final.pc = .drain rest → ∀ seq ∈ rest, seq ∈ final.pending := by
    refine @execute_induction _ _ _ _ _ (fun past state =>
      state.ledger = consumer.framesOf (consumer.accepted past) ∧
        ∀ rest, state.pc = .drain rest → ∀ seq ∈ rest, seq ∈ state.pending)
      ⟨rfl, fun _ => Pc.noConfusion⟩ ?_ actions final keeps run
    intro past before action after reached held condition taken
    obtain ⟨ledger, drains⟩ := step_ledger held.2 condition taken
    refine ⟨?_, drains⟩
    rw [ledger, held.1, accepted_concat reached, framesOf_append]
  exact account.1

/-- While the generator goes on, every message delivered is accepted or counted as dropped. -/
theorem frames_dropped (run : consumer.frames actions = some final) (goes : ¬ final.Ended) :
    final.dropped + (consumer.accepted actions).length = (delivered actions).length := by
  induction actions using List.reverseRecOn generalizing final with
  | nil =>
      cases run
      rfl
  | append_singleton past action ih =>
      obtain ⟨before, reached, taken⟩ := (execute_concat_eq_some _).mp run
      have earlier := ih reached fun ended => goes (ended_of_step ended taken)
      have now := step_dropped taken goes
      have messages : delivered (past ++ [action]) = delivered past ++ action.messages := by
        rw [delivered, List.flatMap_append, List.flatMap_singleton]
        rfl
      rw [accepted_concat reached, messages, List.length_append, List.length_append]
      omega

end Panakoes.TranscriberStream.SQSConsumer
