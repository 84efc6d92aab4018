import Panakoes.TranscriberStream.FrameOrder

/-! # No frame is lost before a skip

A finite set of frames with distinct `seq` is delivered in any order, in any
batches and with any duplicates, no gap lasts for the skip to fire, and
`stop()` comes after the last delivery. Every frame is then yielded exactly
once when two more things hold: the first batch carries the lowest `seq`, which
`next_seq` starts at, and `stop()` does not find the generator handing out
frames of a batch with more of them buffered. Without the first, a lower frame
that arrives later is dropped as a duplicate; without the second, the
generator returns with frames in the buffer.
-/

namespace Panakoes.TranscriberStream.SQSConsumer

open Transition

variable {consumer : SQSConsumer} {frames : List (Nat × Bytes)}

/-! ## The deliveries the claim is about -/

/-- The message carries the frame. -/
def Carries (consumer : SQSConsumer) (message : Message) (frame : Nat × Bytes) : Prop :=
  consumer.decode message = .ok (.frame (some frame.1) frame.2)

instance (message : Message) (frame : Nat × Bytes) : Decidable (consumer.Carries message frame) :=
  match held : consumer.decode message with
  | .error _ => .isFalse fun carries => nomatch held.symm.trans carries
  | .ok decoded =>
      decidable_of_iff (decoded = .frame (some frame.1) frame.2) (by simp [Carries, held])

/-- Every message received carries one of the frames. -/
def CarriesFrames (consumer : SQSConsumer) (frames : List (Nat × Bytes)) (action : Action) : Prop :=
  ∀ message ∈ action.messages, ∃ frame ∈ frames, consumer.Carries message frame

/-- A receive is answered before the open gap has lasted for the skip to fire. -/
def WithinGapWait (state : State) : Action → Prop
  | .receive _ now => ∀ since ∈ state.gapSince, now - since < maxGapWaitSeconds
  | _ => True

/-- All the frames are among the messages. -/
def AllCarried (consumer : SQSConsumer) (frames : List (Nat × Bytes)) (messages : List Message) :
    Prop :=
  ∀ frame ∈ frames, ∃ message ∈ messages, consumer.Carries message frame

/-- `stop()` is called only after all the frames have been delivered. -/
def StopsLast (consumer : SQSConsumer) (frames : List (Nat × Bytes)) (past : List Action)
    (action : Action) : Prop :=
  action = .stop → consumer.AllCarried frames (delivered past)

/-- One delivery step of the frames. -/
def Delivers (consumer : SQSConsumer) (frames : List (Nat × Bytes)) (past : List Action)
    (state : State) (action : Action) : Prop :=
  consumer.CarriesFrames frames action ∧ WithinGapWait state action ∧
    consumer.StopsLast frames past action

instance (action : Action) : Decidable (consumer.CarriesFrames frames action) :=
  inferInstanceAs (Decidable (∀ message ∈ action.messages, ∃ frame ∈ frames, _))

instance (state : State) (action : Action) : Decidable (WithinGapWait state action) :=
  match action with
  | .receive _ _ => inferInstanceAs (Decidable (∀ since ∈ state.gapSince, _))
  | .stop | .wake | .next _ => .isTrue trivial

instance (messages : List Message) : Decidable (consumer.AllCarried frames messages) :=
  inferInstanceAs (Decidable (∀ frame ∈ frames, ∃ message ∈ messages, _))

instance (past : List Action) (state : State) (action : Action) :
    Decidable (consumer.Delivers frames past state action) :=
  inferInstanceAs (Decidable (_ ∧ _ ∧ (_ → _)))

/-! ## The condition under which nothing is lost -/

/-- The batch that `next_seq` is initialised from carries the lowest `seq`. -/
def StartsAtLowest (consumer : SQSConsumer) (frames : List (Nat × Bytes)) (state : State)
    (action : Action) : Prop :=
  state.nextSeq = none → action.messages ≠ [] →
    ∀ frame ∈ frames, ∃ message ∈ action.messages, ∃ seq ∈ consumer.seqOf message, seq ≤ frame.1

/-- `stop()` does not find the flush suspended with frames still buffered. -/
def StopsBetweenFlushes (state : State) (action : Action) : Prop :=
  action = .stop → state.pc = .flush → state.pending.keys = []

/-- The condition on one step under which nothing is lost. -/
def LosesNothing (consumer : SQSConsumer) (frames : List (Nat × Bytes)) (state : State)
    (action : Action) : Prop :=
  consumer.StartsAtLowest frames state action ∧ StopsBetweenFlushes state action

instance (state : State) (action : Action) :
    Decidable (consumer.LosesNothing frames state action) :=
  inferInstanceAs (Decidable ((_ → _ → ∀ frame ∈ frames, ∃ message ∈ action.messages,
    ∃ seq ∈ consumer.seqOf message, _) ∧ (_ → _ → _)))

namespace State

/-! ## The invariant -/

/-- Every frame delivered so far is yielded or buffered, and every frame below
`next_seq` is yielded. -/
structure Accounted (consumer : SQSConsumer) (frames : List (Nat × Bytes))
    (messages : List Message) (state : State) : Prop where
  genuine : ∀ message ∈ messages, ∃ frame ∈ frames, consumer.Carries message frame
  held : ∀ seq pcm, state.pending.lookup seq = some pcm → (seq, pcm) ∈ frames
  out : ∀ entry ∈ state.yielded, ∃ frame ∈ frames, entry = (some frame.1, frame.2)
  covered : ∀ message ∈ messages, ∀ frame, consumer.Carries message frame →
    (some frame.1, frame.2) ∈ state.yielded ∨ frame.1 ∈ state.pending
  contiguous : ∀ last ∈ state.yieldedUpTo, ∀ next ∈ state.nextSeq, next = last + 1
  lower : ∀ frame ∈ frames, ∀ next ∈ state.nextSeq, frame.1 < next →
    (some frame.1, frame.2) ∈ state.yielded
  finished : state.stopped = true → consumer.AllCarried frames messages

/-- The next frame to yield has not arrived. -/
def Blocked (state : State) : Prop :=
  match state.nextSeq with
  | some next => next ∉ state.pending
  | none => state.pending.keys = []

/-- The invariant of the draining loop: what is not yielded yet remains. -/
structure Remaining (frames : List (Nat × Bytes)) (state : State) (rest : List Nat) : Prop where
  held : ∀ seq pcm, state.pending.lookup seq = some pcm → (seq, pcm) ∈ frames
  present : ∀ seq ∈ rest, seq ∈ state.pending
  out : ∀ entry ∈ state.yielded, ∃ frame ∈ frames, entry = (some frame.1, frame.2)
  left : ∀ frame ∈ frames, (some frame.1, frame.2) ∈ state.yielded ∨ frame.1 ∈ rest

/-- Exactly the frames are yielded. -/
def Delivered (frames : List (Nat × Bytes)) (state : State) : Prop :=
  ∀ entry, entry ∈ state.yielded ↔ ∃ frame ∈ frames, entry = (some frame.1, frame.2)

/-- The invariant of the generator wherever it is suspended or has ended. -/
def Lossless (consumer : SQSConsumer) (frames : List (Nat × Bytes)) (messages : List Message)
    (state : State) : Prop :=
  match state.pc with
  | .created | .receiving | .sleeping => state.Accounted consumer frames messages ∧ state.Blocked
  | .flush => state.Accounted consumer frames messages ∧ state.gapSince = none ∧
      state.nextSeq.isSome ∧ (state.stopped = true → state.pending.keys = [])
  | .drain rest => state.Remaining frames rest
  | .returned => state.Delivered frames
  | .payloads _ | .skipFlush | .raised _ => False

/-! ## Each piece of the generator keeps it -/

theorem snd_eq_of_mem (distinct : (frames.map Prod.fst).Nodup) {seq : Nat} {first second : Bytes}
    (one : (seq, first) ∈ frames) (two : (seq, second) ∈ frames) : first = second := by
  have same := List.inj_on_of_nodup_map distinct one two rfl
  exact congrArg Prod.snd same

theorem Remaining.drainNext (distinct : (frames.map Prod.fst).Nodup) {messages : List Message}
    {state : State} {rest : List Nat} (remaining : state.Remaining frames rest) :
    (state.drainNext rest).Lossless consumer frames messages := by
  cases rest with
  | nil =>
      intro entry
      constructor
      · exact remaining.out entry
      · rintro ⟨frame, member, rfl⟩
        rcases remaining.left frame member with yielded | impossible
        · exact yielded
        · exact absurd impossible List.not_mem_nil
  | cons seq rest =>
      obtain ⟨pcm, held⟩ := Option.isSome_iff_exists.mp
        (AList.lookup_isSome.mpr (remaining.present seq List.mem_cons_self))
      have genuine := remaining.held seq pcm held
      simp only [State.drainNext, held]
      refine ⟨remaining.held, fun later member => remaining.present later
        (List.mem_cons_of_mem _ member), ?_, ?_⟩
      · intro entry member
        rcases List.mem_append.mp member with before | new
        · exact remaining.out entry before
        · rw [List.mem_singleton] at new
          exact ⟨(seq, pcm), genuine, new⟩
      · rintro ⟨other, bytes⟩ member
        rcases remaining.left _ member with yielded | waiting
        · exact Or.inl (List.mem_append_left _ yielded)
        · rcases List.mem_cons.mp waiting with same | later
          · have equal : other = seq := same
            subst equal
            have := snd_eq_of_mem distinct member genuine
            subst this
            exact Or.inl (List.mem_append_right _ (List.mem_singleton_self _))
          · exact Or.inr later

theorem Accounted.loopHead (distinct : (frames.map Prod.fst).Nodup) {messages : List Message}
    {state : State} (accounted : state.Accounted consumer frames messages)
    (blocked : state.Blocked) : state.loopHead.Lossless consumer frames messages := by
  unfold State.loopHead
  split
  · rename_i stopped
    refine Remaining.drainNext distinct
      ⟨accounted.held, fun seq sorted => mem_sortedPending.mp sorted, accounted.out, ?_⟩
    intro frame member
    obtain ⟨message, received, carries⟩ := accounted.finished stopped frame member
    rcases accounted.covered message received frame carries with yielded | buffered
    · exact Or.inl yielded
    · exact Or.inr (mem_sortedPending.mpr buffered)
  · exact ⟨⟨accounted.genuine, accounted.held, accounted.out, accounted.covered,
      accounted.contiguous, accounted.lower, accounted.finished⟩, blocked⟩

/-- Yielding the frame at `next_seq` keeps every frame accounted for. -/
theorem Accounted.popFrame (distinct : (frames.map Prod.fst).Nodup) {messages : List Message}
    {state : State} (accounted : state.Accounted consumer frames messages) {next : Nat}
    {pcm : Bytes} (nextIs : state.nextSeq = some next)
    (heldNext : state.pending.lookup next = some pcm) (pc : Pc) :
    (state.popFrame next pcm pc).Accounted consumer frames messages := by
  have genuine := accounted.held next pcm heldNext
  refine ⟨accounted.genuine, ?_, ?_, ?_, ?_, ?_, accounted.finished⟩
  · intro seq bytes buffered
    have different : seq ≠ next := by
      rintro rfl
      rw [State.popFrame, State.yieldFrame, AList.lookup_erase] at buffered
      cases buffered
    rw [State.popFrame, State.yieldFrame, AList.lookup_erase_ne different] at buffered
    exact accounted.held seq bytes buffered
  · intro entry member
    rcases List.mem_append.mp member with before | new
    · exact accounted.out entry before
    · rw [List.mem_singleton] at new
      exact ⟨(next, pcm), genuine, new⟩
  · rintro message received ⟨seq, bytes⟩ carries
    rcases accounted.covered message received _ carries with yielded | buffered
    · exact Or.inl (List.mem_append_left _ yielded)
    · by_cases same : seq = next
      · subst same
        obtain ⟨⟨other, otherBytes⟩, member, also⟩ := accounted.genuine message received
        have equal : (Except.ok (.frame (some seq) bytes) : Except PyError Decoded) =
            .ok (.frame (some other) otherBytes) := carries.symm.trans also
        cases equal
        have := snd_eq_of_mem distinct member genuine
        subst this
        exact Or.inl (List.mem_append_right _ (List.mem_singleton_self _))
      · exact Or.inr (AList.mem_erase.mpr ⟨same, buffered⟩)
  · intro last lastIs after afterIs
    cases lastIs
    cases afterIs
    rfl
  · rintro ⟨seq, bytes⟩ member after afterIs below
    cases afterIs
    by_cases same : seq = next
    · subst same
      have := snd_eq_of_mem distinct member genuine
      subst this
      exact List.mem_append_right _ (List.mem_singleton_self _)
    · have lower : seq < next := by
        change seq < next + 1 at below
        omega
      exact List.mem_append_left _ (accounted.lower _ member next nextIs lower)

/-- The ordered flush, when no gap has lasted for the skip to fire and
`stop()` has not been called if it yields. -/
theorem Accounted.flushLoop (distinct : (frames.map Prod.fst).Nodup) {messages : List Message}
    {state : State} (accounted : state.Accounted consumer frames messages) {now : ℚ} {next : Nat}
    (nextIs : state.nextSeq = some next)
    (within : ∀ since ∈ state.gapSince, now - since < maxGapWaitSeconds)
    (running : next ∈ state.pending → state.stopped = false) :
    (state.flushLoop now).Lossless consumer frames messages := by
  simp only [State.flushLoop, nextIs]
  split
  · rename_i pcm held
    have unblocked : { state with gapSince := none }.Accounted consumer frames messages :=
      ⟨accounted.genuine, accounted.held, accounted.out, accounted.covered, accounted.contiguous,
        accounted.lower, accounted.finished⟩
    refine ⟨unblocked.popFrame distinct nextIs held .flush, rfl, rfl, fun stopped => ?_⟩
    have unstopped := running (AList.lookup_isSome.mp (by rw [held]; rfl))
    exact absurd (stopped.symm.trans unstopped) (by decide)
  · rename_i absent
    have missing : next ∉ state.pending := fun buffered => by
      have := AList.lookup_isSome.mpr buffered
      rw [absent] at this
      cases this
    have unskipped : state.checkGap now = state ∨
        state.checkGap now = { state with gapSince := some now } := by
      unfold State.checkGap
      split
      · exact Or.inl rfl
      · split
        · exact Or.inr rfl
        · rename_i since sinceIs
          rw [ite_cond_eq_false]
          · exact Or.inl rfl
          · exact eq_false (Rat.not_le.mpr (within since sinceIs))
    rcases unskipped with same | waits
    · rw [same]
      exact accounted.loopHead distinct (by simpa only [State.Blocked, nextIs] using missing)
    · rw [waits]
      refine Accounted.loopHead distinct ⟨accounted.genuine, accounted.held, accounted.out,
        accounted.covered, accounted.contiguous, accounted.lower, accounted.finished⟩ ?_
      simpa only [State.Blocked, nextIs] using missing

/-- The ordered flush after a batch. When `next_seq` is not set, the lowest
buffered frame must be the lowest of all. -/
theorem Accounted.enterFlush (distinct : (frames.map Prod.fst).Nodup) {messages : List Message}
    {state : State} (accounted : state.Accounted consumer frames messages) {now : ℚ}
    (within : ∀ since ∈ state.gapSince, now - since < maxGapWaitSeconds)
    (fresh : state.nextSeq = none → state.yieldedUpTo = none)
    (lowest : state.nextSeq = none → ∀ frame ∈ frames, ∃ seq ∈ state.pending, seq ≤ frame.1)
    (running : ∀ least ∈ state.pending.keys.min?, state.nextSeq.getD least ∈ state.pending →
      state.stopped = false) :
    (state.enterFlush now).Lossless consumer frames messages := by
  unfold State.enterFlush
  split
  · rename_i noneIs
    have empty : state.pending.keys = [] := List.min?_eq_none_iff.mp noneIs
    apply accounted.loopHead distinct
    unfold State.Blocked
    split
    · rw [AList.mem_keys, empty]
      exact List.not_mem_nil
    · exact empty
  · rename_i least leastIs
    cases nextIs : state.nextSeq with
    | some next =>
        have same : { state with nextSeq := some next } = state := by rw [← nextIs]
        have unstopped := running least leastIs
        rw [nextIs, Option.getD_some] at unstopped
        rw [Option.getD_some, same]
        exact accounted.flushLoop distinct nextIs within unstopped
    | none =>
        have unstopped := running least leastIs
        rw [nextIs, Option.getD_none] at unstopped
        have pointed : { state with nextSeq := some least }.Accounted consumer frames messages := by
          refine ⟨accounted.genuine, accounted.held, accounted.out, accounted.covered, ?_, ?_,
            accounted.finished⟩
          · intro last lastIs
            cases (fresh nextIs).symm.trans lastIs
          · -- No frame lies below the lowest buffered one.
            intro frame member next pointsAt below
            cases pointsAt
            obtain ⟨seq, buffered, le⟩ := lowest nextIs frame member
            have := (List.min?_eq_some_iff.mp leastIs).2 seq (AList.mem_keys.mp buffered)
            omega
        exact pointed.flushLoop distinct rfl within unstopped

/-- A receive without messages, when no gap has lasted for the skip to fire. -/
theorem Accounted.emptyReceive (distinct : (frames.map Prod.fst).Nodup)
    {messages : List Message} {state : State}
    (accounted : state.Accounted consumer frames messages) (blocked : state.Blocked) {now : ℚ}
    (within : ∀ since ∈ state.gapSince, now - since < maxGapWaitSeconds) :
    (state.emptyReceive now).Lossless consumer frames messages := by
  unfold State.emptyReceive
  split
  · split
    · exact Accounted.loopHead distinct ⟨accounted.genuine, accounted.held, accounted.out,
        accounted.covered, accounted.contiguous, accounted.lower, accounted.finished⟩ blocked
    · rename_i since sinceIs
      rw [ite_cond_eq_false]
      · exact accounted.loopHead distinct blocked
      · exact eq_false (Rat.not_le.mpr (within since sinceIs))
  · exact accounted.loopHead distinct blocked

/-- What is yielded is exactly the frames, and nothing twice. -/
theorem Delivered.perm {state : State} (delivered : state.Delivered frames)
    (distinct : (frames.map Prod.fst).Nodup) (increasing : state.seqs.Pairwise (· < ·)) :
    state.yielded.Perm (frames.map fun frame => (some frame.1, frame.2)) := by
  have once : state.yielded.Nodup := by
    have sequenced : ∀ entry ∈ state.yielded, entry.1.isSome := by
      intro entry member
      obtain ⟨frame, _, rfl⟩ := (delivered entry).mp member
      rfl
    have unequal : state.seqs.Nodup := increasing.imp Nat.ne_of_lt
    rw [State.seqs, List.nodup_iff_pairwise_ne, List.pairwise_filterMap] at unequal
    refine unequal.imp_of_mem ?_
    rintro first second member - different rfl
    obtain ⟨seq, seqIs⟩ := Option.isSome_iff_exists.mp (sequenced first member)
    exact different seq seqIs seq seqIs rfl
  have distinctFrames : (frames.map fun frame => (some frame.1, frame.2)).Nodup := by
    refine (List.Nodup.of_map _ distinct).map ?_
    rintro ⟨first, firstPcm⟩ ⟨second, secondPcm⟩ same
    cases same
    rfl
  rw [List.perm_ext_iff_of_nodup once distinctFrames]
  intro entry
  rw [delivered entry, List.mem_map]
  exact exists_congr fun frame => and_congr_right fun _ => eq_comm

end State

/-! ## One step -/

/-- A batch of the frames keeps every frame accounted for. -/
theorem State.Accounted.takeIn {messages batch : List Message} {state : State} {intake : Intake}
    (live : state.Live) (accounted : state.Accounted consumer frames messages)
    (carried : ∀ message ∈ batch, ∃ frame ∈ frames, consumer.Carries message frame)
    {start : Intake} (same : start.pending = state.pending)
    (taken : consumer.takeIn state.yieldedUpTo start batch = .ok intake) :
    { state with pending := intake.pending }.Accounted consumer frames (messages ++ batch) := by
  refine ⟨?_, ?_, accounted.out, ?_, accounted.contiguous, accounted.lower, ?_⟩
  · intro message member
    rcases List.mem_append.mp member with before | new
    · exact accounted.genuine message before
    · exact carried message new
  · intro seq pcm buffered
    rcases lookup_takeIn taken buffered with before | ⟨message, member, decodes, _⟩
    · exact accounted.held seq pcm (same ▸ before)
    · obtain ⟨frame, genuine, carries⟩ := carried message member
      cases carries.symm.trans decodes
      exact genuine
  · rintro message member ⟨seq, pcm⟩ carries
    rcases List.mem_append.mp member with before | new
    · rcases accounted.covered message before (seq, pcm) carries with yielded | buffered
      · exact Or.inl yielded
      · obtain ⟨bytes, held⟩ := Option.isSome_iff_exists.mp (AList.lookup_isSome.mpr buffered)
        refine Or.inr (AList.lookup_isSome.mp ?_)
        rw [lookup_takeIn_of_lookup taken (same ▸ held)]
        rfl
    · rcases mem_takeIn taken new carries with seen | buffered
      · -- What the duplicate test drops lies below `next_seq`, so it has been yielded.
        obtain ⟨⟨other, bytes⟩, genuine, also⟩ := carried message new
        cases carries.symm.trans also
        cases lastIs : state.yieldedUpTo with
        | none =>
            rw [lastIs] at seen
            cases seen
        | some last =>
            obtain ⟨next, nextIs, _⟩ := live.ahead last lastIs
            have := accounted.contiguous last lastIs next nextIs
            have le : seq ≤ last := by simpa [alreadyYielded, lastIs] using seen
            have below : seq < next := by omega
            exact Or.inl (accounted.lower (seq, pcm) genuine next nextIs below)
      · exact Or.inr buffered
  · intro stopped frame member
    obtain ⟨message, received, carries⟩ := accounted.finished stopped frame member
    exact ⟨message, List.mem_append_left _ received, carries⟩

/-- After `stop()` a batch of the frames brings nothing new. -/
theorem State.Accounted.settled {messages batch : List Message} {state : State} {intake : Intake}
    (accounted : state.Accounted consumer frames messages)
    (carried : ∀ message ∈ batch, ∃ frame ∈ frames, consumer.Carries message frame)
    {start : Intake} (same : start.pending = state.pending)
    (taken : consumer.takeIn state.yieldedUpTo start batch = .ok intake)
    (stopped : state.stopped = true) {seq : Nat} (buffered : seq ∈ intake.pending) :
    seq ∈ state.seqs ∨ seq ∈ state.pending := by
  obtain ⟨pcm, held⟩ := Option.isSome_iff_exists.mp (AList.lookup_isSome.mpr buffered)
  rcases lookup_takeIn taken held with before | ⟨message, member, decodes, _⟩
  · rw [same] at before
    exact Or.inr (AList.lookup_isSome.mp (by rw [before]; rfl))
  · obtain ⟨frame, genuine, carries⟩ := carried message member
    cases carries.symm.trans decodes
    obtain ⟨earlier, received, also⟩ := accounted.finished stopped frame genuine
    rcases accounted.covered earlier received frame also with yielded | waiting
    · exact Or.inl (List.mem_filterMap.mpr ⟨_, yielded, rfl⟩)
    · exact Or.inr waiting

/-- A batch of the frames, from a state in which the next frame to yield has
not arrived. -/
theorem batchReceive_lossless (distinct : (frames.map Prod.fst).Nodup)
    {messages batch : List Message} {state : State} (live : state.Live)
    (accounted : state.Accounted consumer frames messages) (blocked : state.Blocked) {now : ℚ}
    (carried : ∀ message ∈ batch, ∃ frame ∈ frames, consumer.Carries message frame)
    (within : ∀ since ∈ state.gapSince, now - since < maxGapWaitSeconds)
    (lowest : state.nextSeq = none → ∀ frame ∈ frames, ∃ message ∈ batch,
      ∃ seq ∈ consumer.seqOf message, seq ≤ frame.1) :
    (consumer.batchReceive state batch now).Lossless consumer frames (messages ++ batch) := by
  unfold batchReceive
  split
  · rename_i error taken
    obtain ⟨message, member, raises⟩ := takeIn_eq_error taken
    obtain ⟨frame, _, carries⟩ := carried message member
    cases raises.symm.trans carries
  · rename_i intake taken
    have noPayloads : intake.payloads = [] := by
      apply List.eq_nil_iff_forall_not_mem.mpr
      intro pcm member
      rcases mem_payloads_takeIn taken member with before | ⟨message, received, decodes⟩
      · exact absurd before List.not_mem_nil
      · obtain ⟨frame, _, carries⟩ := carried message received
        cases decodes.symm.trans carries
    have after := accounted.takeIn live carried rfl taken
    rw [noPayloads]
    apply State.Accounted.enterFlush distinct
    · exact ⟨after.genuine, after.held, after.out, after.covered, after.contiguous, after.lower,
        after.finished⟩
    · exact within
    · intro unset
      cases lastIs : state.yieldedUpTo with
      | none => rfl
      | some last =>
          obtain ⟨next, nextIs, _⟩ := live.ahead last lastIs
          cases unset.symm.trans nextIs
    · intro unset frame member
      obtain ⟨message, received, seq, seqIs, le⟩ := lowest unset frame member
      obtain ⟨other, _, carries⟩ := carried message received
      cases (seqOf_of_decode carries).symm.trans seqIs
      rcases mem_takeIn taken received carries with seen | buffered
      · cases lastIs : state.yieldedUpTo with
        | none =>
            rw [lastIs] at seen
            cases seen
        | some last =>
            obtain ⟨next, nextIs, _⟩ := live.ahead last lastIs
            cases unset.symm.trans nextIs
      · exact ⟨other.1, buffered, le⟩
    · intro least leastIs buffered
      by_contra called
      have stopped : state.stopped = true := by simpa using called
      have settled := accounted.settled carried rfl taken stopped buffered
      unfold State.Blocked at blocked
      split at blocked
      · rename_i next nextIs
        simp only [nextIs, Option.getD_some] at settled
        rcases settled with yielded | waiting
        · obtain ⟨last, lastIs, le⟩ := live.bounded next yielded
          obtain ⟨ahead, aheadIs, lt⟩ := live.ahead last lastIs
          cases nextIs.symm.trans aheadIs
          omega
        · exact blocked waiting
      · rename_i unset
        rcases settled with yielded | waiting
        · rw [live.seqs_eq_nil unset] at yielded
          exact absurd yielded List.not_mem_nil
        · rw [AList.mem_keys, blocked] at waiting
          exact absurd waiting List.not_mem_nil

theorem delivered_concat (past : List Action) (action : Action) :
    delivered (past ++ [action]) = delivered past ++ action.messages := by
  simp [delivered]

theorem initial_lossless : initial.Lossless consumer frames [] := by
  refine ⟨⟨?_, ?_, ?_, ?_, by rintro _ ⟨⟩, by rintro _ _ _ ⟨⟩, Bool.noConfusion⟩, rfl⟩
  · exact fun _ member => absurd member List.not_mem_nil
  · rintro _ _ ⟨⟩
  · exact fun _ member => absurd member List.not_mem_nil
  · exact fun _ member => absurd member List.not_mem_nil

/-- `stop()` after the last delivery keeps every frame accounted for. -/
theorem State.Lossless.stop {messages : List Message} {state : State}
    (lossless : state.Lossless consumer frames messages)
    (last : consumer.AllCarried frames messages)
    (between : state.pc = .flush → state.pending.keys = []) :
    State.Lossless consumer frames messages { state with stopped := true } := by
  have stopping : ∀ pc, state.Accounted consumer frames messages →
      State.Accounted consumer frames messages { state with stopped := true, pc } :=
    fun _ accounted => ⟨accounted.genuine, accounted.held, accounted.out, accounted.covered,
      accounted.contiguous, accounted.lower, fun _ => last⟩
  cases at_pc : state.pc with
  | drain rest =>
      simp only [State.Lossless, at_pc] at lossless ⊢
      exact ⟨lossless.held, lossless.present, lossless.out, lossless.left⟩
  | flush =>
      simp only [State.Lossless, at_pc] at lossless ⊢
      exact ⟨stopping _ lossless.1, lossless.2.1, lossless.2.2.1, fun _ => between at_pc⟩
  | created | receiving | sleeping =>
      simp only [State.Lossless, at_pc] at lossless ⊢
      exact ⟨stopping _ lossless.1, lossless.2⟩
  | returned =>
      simp only [State.Lossless, at_pc] at lossless ⊢
      exact lossless
  | payloads _ | skipFlush | raised _ => simp only [State.Lossless, at_pc] at lossless

/-- After `stop()`, with nothing buffered, everything has been yielded. -/
theorem State.Accounted.delivered {messages : List Message} {state : State}
    (accounted : state.Accounted consumer frames messages) (stopped : state.stopped = true)
    (empty : state.pending.keys = []) : state.Delivered frames := by
  intro entry
  constructor
  · exact accounted.out entry
  · rintro ⟨frame, member, rfl⟩
    obtain ⟨message, received, carries⟩ := accounted.finished stopped frame member
    rcases accounted.covered message received frame carries with yielded | buffered
    · exact yielded
    · rw [AList.mem_keys, empty] at buffered
      exact absurd buffered List.not_mem_nil

/-- One delivery step loses nothing under the condition. -/
theorem step_lossless (distinct : (frames.map Prod.fst).Nodup) {past : List Action}
    {before after : State} {action : Action} (ordered : before.InOrder)
    (lossless : before.Lossless consumer frames (delivered past))
    (delivers : consumer.Delivers frames past before action)
    (kept : consumer.LosesNothing frames before action)
    (taken : consumer.step before action = some after) :
    after.Lossless consumer frames (delivered (past ++ [action])) := by
  rw [delivered_concat]
  obtain ⟨carried, within, stopsLast⟩ := delivers
  obtain ⟨lowest, between⟩ := kept
  cases consumer.step_effect taken with
  | batch message rest now receiving =>
      simp only [State.Lossless, receiving] at lossless
      simp only [State.InOrder, receiving] at ordered
      exact batchReceive_lossless distinct ordered lossless.1 lossless.2 carried within
        fun unset => lowest unset (List.cons_ne_nil _ _)
  | stop =>
      simp only [Action.messages, List.append_nil]
      exact lossless.stop (stopsLast rfl) (between rfl)
  | wake sleeping =>
      simp only [Action.messages, List.append_nil]
      simp only [State.Lossless, sleeping] at lossless
      exact lossless.1.loopHead distinct lossless.2
  | failed now receiving =>
      simp only [Action.messages, List.append_nil]
      simp only [State.Lossless, receiving] at lossless
      exact ⟨⟨lossless.1.genuine, lossless.1.held, lossless.1.out, lossless.1.covered,
        lossless.1.contiguous, lossless.1.lower, lossless.1.finished⟩, lossless.2⟩
  | empty now receiving =>
      simp only [Action.messages, List.append_nil]
      simp only [State.Lossless, receiving] at lossless
      exact lossless.1.emptyReceive distinct lossless.2 within
  | start now created =>
      simp only [Action.messages, List.append_nil]
      simp only [State.Lossless, created] at lossless
      exact lossless.1.loopHead distinct lossless.2
  | leave now stopped yielding =>
      simp only [Action.messages, List.append_nil]
      rcases yielding with ⟨rest, yielding⟩ | yielding | yielding
      all_goals simp only [State.Lossless, yielding] at lossless
      obtain ⟨accounted, _, _, drained⟩ := lossless
      exact accounted.delivered stopped (drained stopped)
  | payloads now rest yielding _ => simp only [State.Lossless, yielding] at lossless
  | skipFlush now yielding _ => simp only [State.Lossless, yielding] at lossless
  | flush now yielding running =>
      simp only [Action.messages, List.append_nil]
      simp only [State.Lossless, yielding] at lossless
      obtain ⟨accounted, noGap, pointed, _⟩ := lossless
      obtain ⟨next, nextIs⟩ := Option.isSome_iff_exists.mp pointed
      refine accounted.flushLoop distinct nextIs ?_ fun _ => running
      rw [noGap]
      rintro _ ⟨⟩
  | drain now rest draining =>
      simp only [Action.messages, List.append_nil]
      simp only [State.Lossless, draining] at lossless
      exact lossless.drainNext distinct

/-- While every frame is accounted for, no frame can be passed over. -/
theorem noFramePassedOver_of_lossless {messages : List Message} {before after : State}
    {action : Action} (lossless : before.Lossless consumer frames messages)
    (taken : consumer.step before action = some after) :
    consumer.NoFramePassedOver before action := by
  unfold NoFramePassedOver
  split
  · rename_i batch now
    have receiving : before.pc = .receiving := by cases consumer.step_effect taken <;> assumption
    simp only [State.Lossless, receiving] at lossless
    rintro message - seq - ⟨last, lastIs, next, nextIs, above, below⟩
    have := lossless.1.contiguous last lastIs next nextIs
    omega
  · trivial

/-! ## After `stop()` -/

/-- A step other than a call of `stop()`. -/
def GoesOn (consumer : SQSConsumer) (after before : State) : Prop :=
  ∃ action, action ≠ .stop ∧ consumer.step before action = some after

theorem acc_of_halted {state : State} (halted : state.Ended) : Acc consumer.GoesOn state := by
  constructor
  intro after ⟨action, notStop, taken⟩
  exact absurd (consumer.step_of_ended halted taken).1 notStop

namespace State

theorem acc_drainNext (state : State) (rest : List Nat) :
    Acc consumer.GoesOn (state.drainNext rest) := by
  induction rest generalizing state with
  | nil => exact acc_of_halted (Or.inl rfl)
  | cons seq rest ih =>
      cases held : state.pending.lookup seq with
      | some pcm =>
          simp only [State.drainNext, held]
          constructor
          rintro after ⟨action, notStop, taken⟩
          cases action with
          | stop => exact absurd rfl notStop
          | wake | receive _ _ => simp [step, State.yieldFrame] at taken
          | next now =>
              cases taken
              exact ih _
      | none =>
          simp only [State.drainNext, held]
          exact acc_of_halted (Or.inr ⟨_, rfl⟩)

theorem acc_loopHead {state : State} (stopped : state.stopped = true) :
    Acc consumer.GoesOn state.loopHead := by
  rw [State.loopHead, if_pos stopped]
  exact acc_drainNext _ _

/-- Suspended at a yield before the draining loop, the stopped generator returns next. -/
theorem acc_of_yielding {state : State} (stopped : state.stopped = true)
    (yielding : (∃ rest, state.pc = .payloads rest) ∨ state.pc = .flush ∨ state.pc = .skipFlush) :
    Acc consumer.GoesOn state := by
  constructor
  rintro after ⟨action, notStop, taken⟩
  cases action with
  | stop => exact absurd rfl notStop
  | wake | receive _ _ =>
      rcases yielding with ⟨rest, at_pc⟩ | at_pc | at_pc <;> simp [step, at_pc] at taken
  | next now =>
      apply acc_of_halted
      rcases yielding with ⟨rest, at_pc⟩ | at_pc | at_pc <;>
        simp only [step, resume, at_pc, stopped, if_true] at taken <;>
        exact Or.inl (by cases taken; rfl)

theorem stopped_checkGap (state : State) (now : ℚ) :
    (state.checkGap now).stopped = state.stopped := by
  unfold State.checkGap
  split
  · rfl
  · split
    · rfl
    · split <;> rfl

theorem acc_flushLoop {state : State} (stopped : state.stopped = true) (now : ℚ) :
    Acc consumer.GoesOn (state.flushLoop now) := by
  unfold State.flushLoop
  split
  · exact acc_loopHead stopped
  · split
    · exact acc_of_yielding stopped (Or.inr (Or.inl rfl))
    · exact acc_loopHead ((stopped_checkGap state now).trans stopped)

theorem acc_emitPayloads {state : State} (stopped : state.stopped = true) (now : ℚ)
    (payloads : List Bytes) : Acc consumer.GoesOn (state.emitPayloads now payloads) := by
  cases payloads with
  | nil =>
      simp only [State.emitPayloads, State.enterFlush]
      split
      · exact acc_loopHead stopped
      · apply acc_flushLoop
        exact stopped
  | cons pcm rest => exact acc_of_yielding stopped (Or.inl ⟨rest, rfl⟩)

theorem acc_emptyReceive {state : State} (stopped : state.stopped = true) (now : ℚ) :
    Acc consumer.GoesOn (state.emptyReceive now) := by
  unfold State.emptyReceive
  split
  · split
    · exact acc_loopHead stopped
    · split
      · unfold State.skipFlushLoop
        split
        · exact acc_loopHead stopped
        · split
          · exact acc_of_yielding stopped (Or.inr (Or.inr rfl))
          · exact acc_loopHead stopped
      · exact acc_loopHead stopped
  · exact acc_loopHead stopped

end State

/-- A failed receive is followed by the sleep and then by the draining loop. -/
theorem acc_of_sleeping {state : State} (stopped : state.stopped = true)
    (sleeping : state.pc = .sleeping) : Acc consumer.GoesOn state := by
  constructor
  rintro after ⟨action, notStop, taken⟩
  cases action with
  | stop => exact absurd rfl notStop
  | receive _ _ | next _ => simp [step, resume, sleeping] at taken
  | wake =>
      simp only [step, sleeping, if_true] at taken
      cases taken
      exact State.acc_loopHead stopped

/-- After `stop()` the generator cannot go on for ever. -/
theorem acc_of_stopped {state : State} (stopped : state.stopped = true) :
    Acc consumer.GoesOn state := by
  constructor
  rintro after ⟨action, notStop, taken⟩
  cases consumer.step_effect taken with
  | stop => exact absurd rfl notStop
  | wake _ | start now _ => exact State.acc_loopHead stopped
  | failed now _ => exact acc_of_sleeping stopped rfl
  | empty now _ => exact State.acc_emptyReceive stopped now
  | batch message rest now _ =>
      unfold batchReceive
      split
      · exact acc_of_halted (Or.inr ⟨_, rfl⟩)
      · apply State.acc_emitPayloads
        exact stopped
  | leave now _ _ => exact acc_of_halted (Or.inl rfl)
  | payloads _ _ _ running | flush _ _ running | skipFlush _ _ running =>
      cases stopped.symm.trans running
  | drain now rest _ => exact State.acc_drainNext state rest

/-- A generator that has neither raised nor returned can go on. -/
theorem exists_goesOn {state : State} (calm : ∀ error, state.pc ≠ .raised error)
    (running : state.pc ≠ .returned) : ∃ after, consumer.GoesOn after state := by
  have enabled : ∃ action, action ≠ .stop ∧ (consumer.step state action).isSome := by
    cases at_pc : state.pc with
    | created | payloads _ | flush | skipFlush | drain _ =>
        exact ⟨.next 0, Action.noConfusion, by simp [step, resume, at_pc]⟩
    | receiving => exact ⟨.receive .failed 0, Action.noConfusion, by simp [step, at_pc]⟩
    | sleeping => exact ⟨.wake, Action.noConfusion, by simp [step, at_pc]⟩
    | returned => exact absurd at_pc running
    | raised error => exact absurd at_pc (calm error)
  obtain ⟨action, notStop, taken⟩ := enabled
  obtain ⟨after, taken⟩ := Option.isSome_iff_exists.mp taken
  exact ⟨after, action, notStop, taken⟩

/-- A generator that loses nothing does not raise. -/
theorem State.Lossless.calm {messages : List Message} {state : State}
    (lossless : state.Lossless consumer frames messages) (error : PyError) :
    state.pc ≠ .raised error := by
  intro raised
  simp only [State.Lossless, raised] at lossless

/-- The frame a sample message carries. -/
def sampleFrame (seq : Nat) : Nat × Bytes := (seq, [0, 0])

/-- Frame 1 arrives late, twice, and before the skip fires. -/
def shuffledRun : List Action :=
  [.next 0, receiveSamples [2, 0] 0, .next 0, receiveSamples [1, 1] 1, .next 1, .next 1, .stop,
    receiveSamples [2] 2]

/-- Frame 3 arrives in the batch after the one of frame 5. -/
def lowerLaterRun : List Action :=
  [.next 0, receiveSamples [5] 0, .next 0, receiveSamples [3] 1, .stop, .receive (.messages []) 1]

end Panakoes.TranscriberStream.SQSConsumer
