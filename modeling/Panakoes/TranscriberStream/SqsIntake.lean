import Panakoes.TranscriberStream.SqsConsumer

/-! # What a receive batch does to the buffer

A batch keeps every buffered frame, adds only frames of its own messages that
the duplicate test does not count as yielded, and adds each of those.
-/

namespace Panakoes.TranscriberStream.SQSConsumer

variable {consumer : SQSConsumer}

/-- The usable `seq` of a message that decodes to a frame. -/
def seqOf (consumer : SQSConsumer) (message : Message) : Option Nat :=
  match consumer.decode message with
  | .ok (.frame seq _) => seq
  | _ => none

theorem seqOf_of_decode {message : Message} {seq : Nat} {pcm : Bytes}
    (decoded : consumer.decode message = .ok (.frame (some seq) pcm)) :
    consumer.seqOf message = some seq := by
  simp only [seqOf, decoded]

/-- A buffered frame stays buffered. -/
theorem Intake.lookup_accept_of_lookup {intake : Intake} {yieldedUpTo : Option Nat}
    {decoded : Decoded} {seq : Nat} {pcm : Bytes}
    (buffered : intake.pending.lookup seq = some pcm) :
    (intake.accept yieldedUpTo decoded).pending.lookup seq = some pcm := by
  cases decoded with
  | malformed => exact buffered
  | stale => exact buffered
  | frame arrived bytes =>
      cases arrived with
      | none => exact buffered
      | some new =>
          simp only [Intake.accept]
          split
          · exact buffered
          · rename_i fresh
            have different : seq ≠ new := by
              rintro rfl
              exact fresh (Or.inr (AList.lookup_isSome.mp (by rw [buffered]; rfl)))
            rw [AList.lookup_insert_ne different]
            exact buffered

/-- What the buffer holds after a message was in it before or is the message's
frame, which then is not counted as yielded. -/
theorem Intake.lookup_accept {intake : Intake} {yieldedUpTo : Option Nat}
    {decoded : Decoded} {seq : Nat} {pcm : Bytes}
    (buffered : (intake.accept yieldedUpTo decoded).pending.lookup seq = some pcm) :
    intake.pending.lookup seq = some pcm ∨
      decoded = .frame (some seq) pcm ∧ alreadyYielded yieldedUpTo seq = false := by
  cases decoded with
  | malformed => exact Or.inl buffered
  | stale => exact Or.inl buffered
  | frame arrived bytes =>
      cases arrived with
      | none => exact Or.inl buffered
      | some new =>
          simp only [Intake.accept] at buffered
          split at buffered
          · exact Or.inl buffered
          · rename_i fresh
            by_cases same : seq = new
            · subst same
              rw [AList.lookup_insert, Option.some.injEq] at buffered
              subst buffered
              have unseen : ¬ alreadyYielded yieldedUpTo seq = true := fun seen =>
                fresh (Or.inl seen)
              exact Or.inr ⟨rfl, by simpa using unseen⟩
            · rw [AList.lookup_insert_ne same] at buffered
              exact Or.inl buffered

/-- A frame that is not counted as yielded is buffered after it was taken in. -/
theorem Intake.mem_accept {intake : Intake} {yieldedUpTo : Option Nat} {seq : Nat}
    {pcm : Bytes} :
    alreadyYielded yieldedUpTo seq = true ∨
      seq ∈ (intake.accept yieldedUpTo (.frame (some seq) pcm)).pending := by
  simp only [Intake.accept]
  split
  · rename_i known
    exact known
  · exact Or.inr (AList.mem_insert _ |>.mpr (Or.inl rfl))

/-- A batch leaves what is buffered in place. -/
theorem lookup_takeIn_of_lookup {yieldedUpTo : Option Nat} {messages : List Message}
    {start final : Intake} {seq : Nat} {pcm : Bytes}
    (taken : consumer.takeIn yieldedUpTo start messages = .ok final)
    (buffered : start.pending.lookup seq = some pcm) :
    final.pending.lookup seq = some pcm := by
  induction messages generalizing start with
  | nil =>
      cases taken
      exact buffered
  | cons message rest ih =>
      simp only [takeIn] at taken
      split at taken
      · cases taken
      · exact ih taken (Intake.lookup_accept_of_lookup buffered)

/-- What is buffered after a batch was buffered before, or comes from a message
of the batch and is not counted as yielded. -/
theorem lookup_takeIn {yieldedUpTo : Option Nat} {messages : List Message}
    {start final : Intake} {seq : Nat} {pcm : Bytes}
    (taken : consumer.takeIn yieldedUpTo start messages = .ok final)
    (buffered : final.pending.lookup seq = some pcm) :
    start.pending.lookup seq = some pcm ∨
      ∃ message ∈ messages, consumer.decode message = .ok (.frame (some seq) pcm) ∧
        alreadyYielded yieldedUpTo seq = false := by
  induction messages generalizing start with
  | nil =>
      cases taken
      exact Or.inl buffered
  | cons message rest ih =>
      simp only [takeIn] at taken
      split at taken
      · cases taken
      · rename_i decoded decodes
        rcases ih taken with before | ⟨other, member, frame⟩
        · rcases Intake.lookup_accept before with earlier | ⟨rfl, unseen⟩
          · exact Or.inl earlier
          · exact Or.inr ⟨message, List.mem_cons_self, decodes, unseen⟩
        · exact Or.inr ⟨other, List.mem_cons_of_mem _ member, frame⟩

/-- Every frame of a batch is buffered after it or counted as yielded. -/
theorem mem_takeIn {yieldedUpTo : Option Nat} {messages : List Message}
    {start final : Intake} {message : Message} {seq : Nat} {pcm : Bytes}
    (taken : consumer.takeIn yieldedUpTo start messages = .ok final)
    (member : message ∈ messages)
    (decodes : consumer.decode message = .ok (.frame (some seq) pcm)) :
    alreadyYielded yieldedUpTo seq = true ∨ seq ∈ final.pending := by
  induction messages generalizing start with
  | nil => exact absurd member List.not_mem_nil
  | cons head rest ih =>
      simp only [takeIn] at taken
      split at taken
      · cases taken
      · rename_i decoded headDecodes
        rcases List.mem_cons.mp member with rfl | later
        · rw [decodes] at headDecodes
          cases headDecodes
          have known : alreadyYielded yieldedUpTo seq = true ∨
              seq ∈ (start.accept yieldedUpTo (.frame (some seq) pcm)).pending :=
            Intake.mem_accept
          rcases known with seen | buffered
          · exact Or.inl seen
          · obtain ⟨bytes, held⟩ := Option.isSome_iff_exists.mp (AList.lookup_isSome.mpr buffered)
            refine Or.inr (AList.lookup_isSome.mp ?_)
            rw [lookup_takeIn_of_lookup taken held]
            rfl
        · exact ih taken later

/-- A batch raises only what decoding one of its messages raises. -/
theorem takeIn_eq_error {yieldedUpTo : Option Nat} {messages : List Message} {start : Intake}
    {error : PyError} (taken : consumer.takeIn yieldedUpTo start messages = .error error) :
    ∃ message ∈ messages, consumer.decode message = .error error := by
  induction messages generalizing start with
  | nil => cases taken
  | cons message rest ih =>
      simp only [takeIn] at taken
      split at taken
      · rename_i raised decodes
        cases taken
        exact ⟨message, List.mem_cons_self, decodes⟩
      · obtain ⟨other, member, decodes⟩ := ih taken
        exact ⟨other, List.mem_cons_of_mem _ member, decodes⟩

/-- Every message of a batch that is taken in decodes. -/
theorem decodes_of_takeIn {yieldedUpTo : Option Nat} {messages : List Message}
    {start final : Intake} (taken : consumer.takeIn yieldedUpTo start messages = .ok final) :
    ∀ message ∈ messages, ∃ decoded, consumer.decode message = .ok decoded := by
  induction messages generalizing start with
  | nil => exact fun _ member => absurd member List.not_mem_nil
  | cons message rest ih =>
      simp only [takeIn] at taken
      split at taken
      · cases taken
      · rename_i decoded decodes
        exact List.forall_mem_cons.mpr ⟨⟨decoded, decodes⟩, ih taken⟩

/-- A payload to yield at once comes from a message without a usable `seq`. -/
theorem mem_payloads_takeIn {yieldedUpTo : Option Nat} {messages : List Message}
    {start final : Intake} {pcm : Bytes}
    (taken : consumer.takeIn yieldedUpTo start messages = .ok final)
    (member : pcm ∈ final.payloads) :
    pcm ∈ start.payloads ∨
      ∃ message ∈ messages, consumer.decode message = .ok (.frame none pcm) := by
  induction messages generalizing start with
  | nil =>
      cases taken
      exact Or.inl member
  | cons message rest ih =>
      simp only [takeIn] at taken
      split at taken
      · cases taken
      · rename_i decoded decodes
        rcases ih taken with before | ⟨other, later, frame⟩
        · cases decoded with
          | malformed => exact Or.inl before
          | stale => exact Or.inl before
          | frame seq bytes =>
              cases seq with
              | none =>
                  rcases List.mem_append.mp before with earlier | new
                  · exact Or.inl earlier
                  · rw [List.mem_singleton] at new
                    subst new
                    exact Or.inr ⟨message, List.mem_cons_self, decodes⟩
              | some seq =>
                  simp only [Intake.accept] at before
                  split at before <;> exact Or.inl before
        · exact Or.inr ⟨other, List.mem_cons_of_mem _ later, frame⟩

end Panakoes.TranscriberStream.SQSConsumer
