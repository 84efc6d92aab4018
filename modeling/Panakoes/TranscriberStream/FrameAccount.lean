import Panakoes.TranscriberStream.FrameLedger
import Panakoes.TranscriberStream.FrameOrder

/-! # The consumer's books

At every receive the messages delivered so far are the frames yielded, the frames buffered
and the messages counted as dropped, each once. The bytes under a `seq` are those of the
first message accepted with it as long as no frame that has been yielded is accepted again
with other bytes. A skip past a frame that then arrives late moves `yielded_up_to` back to
it, and until the numbers above are yielded again they are no longer recognised.
-/

namespace Panakoes.TranscriberStream.SQSConsumer

open Transition

variable {consumer : SQSConsumer}

/-- The first accepted message with that `seq` decodes to these bytes. -/
def FirstAccepted (consumer : SQSConsumer) (actions : List Action) (seq : Nat) (pcm : Bytes) :
    Prop :=
  ∃ message ∈ (consumer.accepted actions).find? fun message => consumer.seqOf message = some seq,
    consumer.decode message = .ok (.frame (some seq) pcm)

/-- A frame that has been yielded and that the duplicate test does not recognise comes back, if it
does, with the bytes it was yielded with. -/
def RepeatsBytes (consumer : SQSConsumer) (state : State) : Action → Prop
  | .receive (.messages batch) _ =>
      ∀ seq ∈ state.seqs, alreadyYielded state.yieldedUpTo seq = false → seq ∉ state.pending →
        ∀ message ∈ batch.find? fun message => consumer.seqOf message = some seq,
          ∀ frame ∈ consumer.frameOf message, frame ∈ state.yielded
  | _ => True

instance (state : State) (action : Action) : Decidable (consumer.RepeatsBytes state action) :=
  match action with
  | .receive (.messages batch) _ =>
      inferInstanceAs (Decidable (∀ seq ∈ state.seqs,
        alreadyYielded state.yieldedUpTo seq = false → seq ∉ state.pending →
          ∀ message ∈ batch.find? fun message => consumer.seqOf message = some seq,
            ∀ frame ∈ consumer.frameOf message, frame ∈ state.yielded))
  | .receive .failed _ | .stop | .wake | .next _ => .isTrue trivial

/-! ## One batch -/

theorem seqOf_eq_some {message : Message} {seq : Nat} (numbered : consumer.seqOf message = some seq) :
    ∃ pcm, consumer.decode message = .ok (.frame (some seq) pcm) := by
  unfold seqOf at numbered
  split at numbered
  · rename_i decodes
    subst numbered
    exact ⟨_, decodes⟩
  · cases numbered

/-- A numbered message that a batch accepts is new, and the first of the batch with its number. -/
theorem mem_acceptedOf {yieldedUpTo : Option Nat} {messages : List Message} {intake : Intake}
    {message : Message} {seq : Nat} {pcm : Bytes}
    (accepted : message ∈ consumer.acceptedOf yieldedUpTo intake messages)
    (decodes : consumer.decode message = .ok (.frame (some seq) pcm)) :
    alreadyYielded yieldedUpTo seq = false ∧ seq ∉ intake.pending ∧
      messages.find? (fun other => consumer.seqOf other = some seq) = some message := by
  induction messages generalizing intake with
  | nil => cases accepted
  | cons head rest ih =>
      simp only [acceptedOf] at accepted
      split at accepted
      · cases accepted
      · rename_i decoded headDecodes
        rcases List.mem_append.mp accepted with now | later
        · split at now
          · rename_i takes
            rw [List.mem_singleton] at now
            subst now
            cases headDecodes.symm.trans decodes
            obtain ⟨unseen, unbuffered⟩ := not_or.mp takes
            refine ⟨Bool.eq_false_iff.mpr unseen, unbuffered, ?_⟩
            exact List.find?_cons_of_pos (decide_eq_true (seqOf_of_decode decodes))
          · cases now
        · obtain ⟨unseen, unbuffered, first⟩ := ih later
          have other : consumer.seqOf head ≠ some seq := by
            intro same
            obtain ⟨bytes, headFrame⟩ := seqOf_eq_some same
            cases headDecodes.symm.trans headFrame
            rcases @Intake.mem_accept intake yieldedUpTo seq bytes with seen | held
            · rw [unseen] at seen
              cases seen
            · exact unbuffered held
          refine ⟨unseen, fun held => unbuffered ?_, ?_⟩
          · obtain ⟨bytes, found⟩ := Option.isSome_iff_exists.mp (AList.lookup_isSome.mpr held)
            exact AList.lookup_isSome.mp (by
              rw [Intake.lookup_accept_of_lookup found]
              rfl)
          · rw [List.find?_cons_of_neg, first]
            exact decide_eq_false other ▸ Bool.false_ne_true

/-- The frame of a numbered message that a step accepts, with the batch it comes from. -/
theorem mem_acceptedBy {before after : State} {action : Action} {message : Message} {seq : Nat}
    {pcm : Bytes} (taken : consumer.step before action = some after)
    (accepted : message ∈ consumer.acceptedBy before action)
    (decodes : consumer.decode message = .ok (.frame (some seq) pcm)) :
    before.pc = .receiving ∧ ∃ batch now, action = .receive (.messages batch) now ∧
      alreadyYielded before.yieldedUpTo seq = false ∧ seq ∉ before.pending ∧
      batch.find? (fun other => consumer.seqOf other = some seq) = some message := by
  unfold acceptedBy at accepted
  split at accepted
  · rename_i batch now
    split at accepted
    · have receiving : before.pc = .receiving := by
        by_contra elsewhere
        simp only [step, if_neg elsewhere] at taken
        cases taken
      exact ⟨receiving, batch, now, rfl, mem_acceptedOf accepted decodes⟩
    · cases accepted
  · cases accepted

/-! ## Runs -/

variable {actions : List Action} {final : State}

/-- All accepted frames with the same number have the same bytes. -/
def Uniform (consumer : SQSConsumer) (messages : List Message) : Prop :=
  ∀ seq first second, (some seq, first) ∈ consumer.framesOf messages →
    (some seq, second) ∈ consumer.framesOf messages → first = second

theorem mem_yielded_of_ledger {state : State} {seq : Nat} {pcm : Bytes}
    (receiving : state.pc = .receiving) (unbuffered : seq ∉ state.pending)
    (member : (some seq, pcm) ∈ state.ledger) : (some seq, pcm) ∈ state.yielded := by
  rcases Multiset.mem_add.mp member with yielded | held
  · exact Multiset.mem_coe.mp yielded
  · simp only [State.held, receiving, mem_buffered] at held
    exact absurd (AList.lookup_isSome.mp (by rw [held]; rfl)) unbuffered

theorem uniform_accepted
    (keeps : Meets consumer.step (fun _ state action => ¬ consumer.Loses state action) [] initial
      actions)
    (repeats : Meets consumer.step (fun _ state action => consumer.RepeatsBytes state action) []
      initial actions)
    (run : consumer.frames actions = some final) : consumer.Uniform (consumer.accepted actions) := by
  induction actions using List.reverseRecOn generalizing final with
  | nil =>
      intro seq first second held _
      cases held
  | append_singleton past action ih =>
      obtain ⟨before, reached, taken⟩ := (execute_concat_eq_some _).mp run
      obtain ⟨kept, _⟩ := Meets.append.mp keeps
      obtain ⟨repeated, last⟩ := Meets.append.mp repeats
      have ledger := frames_ledger kept reached
      have uniform := ih kept repeated reached
      -- What is accepted now agrees with what was accepted before.
      have agrees : ∀ seq first second, (some seq, first) ∈ consumer.framesOf (consumer.accepted past) →
          (some seq, second) ∈ consumer.framesOf (consumer.acceptedBy before action) →
          first = second := by
        intro seq first second earlier now
        obtain ⟨message, accepted, decodes⟩ := mem_framesOf.mp now
        obtain ⟨receiving, batch, clock, rfl, unseen, unbuffered, found⟩ :=
          mem_acceptedBy taken accepted decodes
        have yielded : (some seq, first) ∈ before.yielded :=
          mem_yielded_of_ledger receiving unbuffered (ledger ▸ earlier)
        have again : (some seq, second) ∈ before.yielded :=
          (last before reached).1 seq (List.mem_filterMap.mpr ⟨_, yielded, rfl⟩) unseen unbuffered
            message found _ (frameOf_eq_some.mpr decodes)
        have before_again : (some seq, second) ∈ before.ledger :=
          Multiset.mem_add.mpr (Or.inl (Multiset.mem_coe.mpr again))
        exact uniform seq first second earlier (ledger ▸ before_again)
      intro seq first second one two
      rw [accepted_concat reached, framesOf_append] at one two
      rcases Multiset.mem_add.mp one with one | one
      · rcases Multiset.mem_add.mp two with two | two
        · exact uniform seq first second one two
        · exact agrees seq first second one two
      · rcases Multiset.mem_add.mp two with two | two
        · exact (agrees seq second first two one).symm
        · obtain ⟨message, accepted, decodes⟩ := mem_framesOf.mp one
          obtain ⟨other, otherAccepted, otherDecodes⟩ := mem_framesOf.mp two
          obtain ⟨_, batch, _, rfl, _, _, found⟩ := mem_acceptedBy taken accepted decodes
          obtain ⟨_, _, _, same, _, _, otherFound⟩ := mem_acceptedBy taken otherAccepted otherDecodes
          cases same
          cases found.symm.trans otherFound
          cases decodes.symm.trans otherDecodes
          rfl

/-- The first accepted message with a number decodes to the bytes accepted with it. -/
theorem Uniform.firstAccepted (uniform : consumer.Uniform (consumer.accepted actions)) {seq : Nat}
    {pcm : Bytes} (member : (some seq, pcm) ∈ consumer.framesOf (consumer.accepted actions)) :
    consumer.FirstAccepted actions seq pcm := by
  obtain ⟨message, accepted, decodes⟩ := mem_framesOf.mp member
  have some_numbered : ((consumer.accepted actions).find? fun message =>
      consumer.seqOf message = some seq).isSome := by
    rw [List.find?_isSome]
    exact ⟨message, accepted, decide_eq_true (seqOf_of_decode decodes)⟩
  obtain ⟨first, found⟩ := Option.isSome_iff_exists.mp some_numbered
  have matched := List.find?_some found
  obtain ⟨bytes, firstDecodes⟩ := seqOf_eq_some (of_decide_eq_true matched)
  have same := uniform seq bytes pcm
    (mem_framesOf.mpr ⟨first, List.mem_of_find?_eq_some found, firstDecodes⟩) member
  exact ⟨first, found, same ▸ firstDecodes⟩

theorem frameOf_acceptedOf {yieldedUpTo : Option Nat} {messages : List Message}
    {intake : Intake} :
    ∀ message ∈ consumer.acceptedOf yieldedUpTo intake messages,
      (consumer.frameOf message).isSome := by
  induction messages generalizing intake with
  | nil => exact fun _ member => absurd member List.not_mem_nil
  | cons head rest ih =>
      intro message member
      simp only [acceptedOf] at member
      split at member
      · cases member
      · rename_i decoded decodes
        rcases List.mem_append.mp member with now | later
        · split at now
          · rename_i takes
            rw [List.mem_singleton] at now
            subst now
            cases decoded with
            | malformed => exact takes.elim
            | stale => exact takes.elim
            | frame seq pcm =>
                rw [frameOf_eq_some.mpr decodes]
                rfl
          · cases now
        · exact ih message later

/-- Every accepted message has a frame. -/
theorem card_framesOf_accepted :
    (consumer.framesOf (consumer.accepted actions)).card = (consumer.accepted actions).length := by
  rw [framesOf, Multiset.coe_card, List.filterMap_length_eq_length]
  apply forall_mem_emitted
  intro state action message member
  unfold acceptedBy at member
  split at member
  · split at member
    · exact frameOf_acceptedOf message member
    · cases member
  · cases member

theorem not_ended_of_receiving (receiving : final.pc = .receiving) : ¬ final.Ended := by
  intro ended
  rcases ended with same | ⟨_, same⟩ <;> cases receiving.symm.trans same

theorem ledger_receiving (receiving : final.pc = .receiving) : final.ledger = final.total := by
  simp only [State.ledger, State.held, receiving, State.total]

/-- At a receive every message delivered is yielded, buffered or counted as dropped, whatever was
delivered and skipped. -/
theorem delivered_balance (run : consumer.frames actions = some final)
    (receiving : final.pc = .receiving) :
    (delivered actions).length =
      final.yielded.length + final.staleDropped + final.malformedDropped +
        final.duplicateDropped + final.pending.keys.length := by
  have goes := not_ended_of_receiving receiving
  have counted := frames_dropped run goes
  have cards := congrArg Multiset.card (frames_ledger (keeps_of_alive run goes) run)
  rw [card_framesOf_accepted, ledger_receiving receiving, State.total, Multiset.card_add,
    Multiset.coe_card, card_buffered] at cards
  rw [State.dropped] at counted
  omega

/-- **The books balance.** At every receive of a run in which no yielded frame comes back
unrecognised with other bytes, the messages delivered are the frames yielded and buffered and the
messages counted as dropped, and each numbered frame, yielded or buffered, is that of the first
message accepted with its number. -/
theorem frames_accounted (consumer : SQSConsumer) (actions : List Action) (final : State)
    (repeats : Meets consumer.step (fun _ state action => consumer.RepeatsBytes state action) []
      initial actions)
    (run : consumer.frames actions = some final) (receiving : final.pc = .receiving) :
    (delivered actions).length =
        final.yielded.length + final.staleDropped + final.malformedDropped +
          final.duplicateDropped + final.pending.keys.length ∧
      (∀ seq pcm, (some seq, pcm) ∈ final.yielded ∨ final.pending.lookup seq = some pcm →
        consumer.FirstAccepted actions seq pcm) ∧
      ∀ pcm, (none, pcm) ∈ final.yielded →
        ∃ message ∈ consumer.accepted actions,
          consumer.decode message = .ok (.frame none pcm) := by
  have keeps := keeps_of_alive run (not_ended_of_receiving receiving)
  have ledger : final.total = consumer.framesOf (consumer.accepted actions) :=
    (ledger_receiving receiving).symm.trans (frames_ledger keeps run)
  have uniform := uniform_accepted keeps repeats run
  refine ⟨delivered_balance run receiving, fun seq pcm found => ?_, fun pcm yielded => ?_⟩
  · apply uniform.firstAccepted
    rw [← ledger]
    apply Multiset.mem_add.mpr
    exact found.imp Multiset.mem_coe.mpr mem_buffered.mpr
  · apply mem_framesOf.mp
    rw [← ledger]
    exact Multiset.mem_add.mpr (Or.inl (Multiset.mem_coe.mpr yielded))

/-! ## A frame accepted twice -/

/-- The theorem on a run that skips a lost frame. -/
theorem frames_accounted_lostFrame :
    ∃ final, sampleConsumer.frames lostFrameRun = some final ∧ final.pc = .receiving ∧
      (delivered lostFrameRun).length =
        final.yielded.length + final.staleDropped + final.malformedDropped +
          final.duplicateDropped + final.pending.keys.length := by
  have reached : (sampleConsumer.frames lostFrameRun).map State.pc = some .receiving := by
    decide +kernel
  obtain ⟨final, run, receiving⟩ := Option.map_eq_some_iff.mp reached
  exact ⟨final, run, receiving,
    (frames_accounted _ _ _ (by decide +kernel) run receiving).1⟩

/-- The text of another frame 2. -/
def replacedBody : String := "\x7b\"seq\": 2, \"pcm_b64\": \"AQE=\"\x7d"

/-- The sample decoders, which know the other frame 2 too. -/
def replacedConsumer : SQSConsumer where
  decoders :=
    { sampleDecoders with
      loads := fun body =>
        if body = replacedBody then .ok (.dict [("seq", .int 2), ("pcm_b64", .str "AQE=")])
        else sampleDecoders.loads body
      b64decode := fun text =>
        if text = "AQE=" then .ok [1, 1] else sampleDecoders.b64decode text }
  startedAt := 0

/-- Frame 1 arrives after the skip to 2 and is yielded last, then another frame 2 arrives. -/
def replacedFrameRun : List Action :=
  [.next 0, receiveSamples [0, 2] 0, .next 0, receiveSamples [3] 3, receiveSamples [1] 4,
    .next 4, .next 4, .receive (.messages []) 6, .next 6,
    .receive (.messages [⟨some "r", some "receipt", replacedBody⟩]) 7, .next 7]

/-- The other frame 2 is yielded too. -/
theorem replaced_frame_yielded :
    ¬ ∀ (consumer : SQSConsumer) (actions : List Action) (final : State),
      consumer.frames actions = some final → final.pc = .receiving →
      ∀ seq pcm, (some seq, pcm) ∈ final.yielded ∨ final.pending.lookup seq = some pcm →
        consumer.FirstAccepted actions seq pcm := by
  intro always
  have reached : (replacedConsumer.frames replacedFrameRun).map (fun final =>
      (final.pc, final.yielded.getLast?)) = some (.receiving, some (some 2, [1, 1])) := by
    decide +kernel
  obtain ⟨final, run, ends⟩ := Option.map_eq_some_iff.mp reached
  simp only [Prod.mk.injEq] at ends
  obtain ⟨receiving, last⟩ := ends
  obtain ⟨message, first, decodes⟩ := always replacedConsumer replacedFrameRun final run receiving
    2 [1, 1] (Or.inl (List.mem_of_getLast? last))
  have original : (replacedConsumer.accepted replacedFrameRun).find? (fun message =>
      replacedConsumer.seqOf message = some 2) = some (sampleMessage 2) := by
    decide +kernel
  cases original.symm.trans first
  have bytes : replacedConsumer.frameOf (sampleMessage 2) = some (some 2, [0, 0]) := by
    decide +kernel
  cases (frameOf_eq_some.mpr decodes).symm.trans bytes

end Panakoes.TranscriberStream.SQSConsumer
