import Mathlib.Algebra.GroupWithZero.Nat
import Mathlib.Data.List.Chain
import Mathlib.Tactic.Linarith
import Panakoes.TranscriberStream.PromptSeed

/-! # What the streaming transcriber commits

The calls of an `OnlineASRProcessor`, and what holds over any run of them. Without confidence
validation, which is how the service builds its recogniser, a word is committed by its second
transcription in turn.
-/

namespace Panakoes.TranscriberStream.OnlineAsr

open Transition

/-! ## The other calls -/

/-- `start_silence`. Without audio the recogniser is not called. -/
def Processor.startSilence (asr : Asr) (online : Processor) (outcome : Option Transcription) :
    Processor × Option (List Token × ℚ) :=
  if online.audio = 0 then (online, some ([], online.audioBufferEndTime))
  else online.processIter asr outcome

/-- `end_silence`, and `insert_silence`. A silence of five seconds is a reset, and a shorter one is
audio. -/
def Processor.endSilence (online : Processor) (silenceDuration : Option ℚ) (offset : ℚ) :
    Processor :=
  match silenceDuration with
  | none => online
  | some duration =>
      if duration ≤ 0 then online
      else if duration < 5 then
        online.insertAudioChunk (samplingRate * duration).floor.toNat
      else .init (some (duration + offset))

/-- `new_speaker`. Where `process_iter` raises, there is no reset. -/
def Processor.newSpeaker (asr : Asr) (online : Processor) (start : ℚ)
    (outcome : Option Transcription) : Processor :=
  match online.processIter asr outcome with
  | (after, none) => after
  | (_, some _) => .init (some start)

/-- `finish`: the tokens that are not committed, and the end of the audio. -/
def Processor.finish (online : Processor) : Processor × (List Token × ℚ) :=
  ({ online with bufferTimeOffset := online.audioBufferEndTime },
    (online.transcriptBuffer.buffer, online.audioBufferEndTime))

/-- The calls of the processor, with what the recogniser does where it is called. -/
inductive Call where
  | insertAudioChunk (samples : ℕ)
  | processIter (outcome : Option Transcription)
  | startSilence (outcome : Option Transcription)
  | endSilence (silenceDuration : Option ℚ) (offset : ℚ)
  | newSpeaker (start : ℚ) (outcome : Option Transcription)
  | finish

/-- The processor behind a call. -/
def Processor.call (asr : Asr) (online : Processor) : Call → Processor
  | .insertAudioChunk samples => online.insertAudioChunk samples
  | .processIter outcome => (online.processIter asr outcome).1
  | .startSilence outcome => (online.startSilence asr outcome).1
  | .endSilence silenceDuration offset => online.endSilence silenceDuration offset
  | .newSpeaker start outcome => online.newSpeaker asr start outcome
  | .finish => online.finish.1

/-- The transcription that a call gets. -/
def Processor.transcribed (online : Processor) : Call → Option Transcription
  | .processIter outcome => outcome
  | .startSilence outcome => if online.audio = 0 then none else outcome
  | .newSpeaker _ outcome => outcome
  | .insertAudioChunk _ | .endSilence _ _ | .finish => none

/-- The tokens that a call commits. -/
def Processor.committedBy (asr : Asr) (online : Processor) (call : Call) : List Token :=
  (online.transcribed call).elim [] fun res => (online.commit asr res).1

/-- The processor, and the tokens of the last transcription. -/
structure Hearing where
  online : Processor
  heard : List Token
  deriving DecidableEq

def Hearing.start : Hearing := ⟨.init none, []⟩

/-- One call. -/
def Hearing.step (asr : Asr) (hearing : Hearing) (call : Call) : Option Hearing :=
  some
    { online := hearing.online.call asr call
      heard := ((hearing.online.transcribed call).map Transcription.tokens).getD hearing.heard }

/-! ## Agreement -/

variable {asr : Asr} {online after : Processor} {res : Transcription}

/-- The tokens that are committed and those that are left are the new ones. -/
theorem agree_append (confidenceValidation : Bool) (new buffer : List Token) :
    (agree confidenceValidation new buffer).1 ++ (agree confidenceValidation new buffer).2 = new := by
  induction new generalizing buffer with
  | nil => rfl
  | cons token rest ih =>
      unfold agree
      split
      · exact congrArg (token :: ·) (ih _)
      · cases buffer with
        | nil => rfl
        | cons head behind =>
            dsimp only
            split
            · exact congrArg (token :: ·) (ih _)
            · rfl

/-- The tokens that are committed are those with which the last hypothesis begins. -/
theorem agree_isPrefix (new buffer : List Token) :
    (agree false new buffer).1.map Token.text <+: buffer.map Token.text := by
  induction new generalizing buffer with
  | nil => exact List.nil_prefix
  | cons token rest ih =>
      unfold agree
      rw [if_neg fun sure => Bool.false_ne_true sure.1]
      cases buffer with
      | nil => exact List.nil_prefix
      | cons head behind =>
          dsimp only
          split
          · rename_i same
            rw [List.map_cons, List.map_cons, same]
            exact (List.prefix_cons_inj _).mpr (ih behind)
          · exact List.nil_prefix

/-- Where a token is left, the last hypothesis ends or goes on otherwise. -/
theorem agree_longest (new buffer : List Token) :
    ∀ token ∈ (agree false new buffer).2.head?,
      ∀ head ∈ (buffer.drop (agree false new buffer).1.length).head?, token.text ≠ head.text := by
  induction new generalizing buffer with
  | nil =>
      intro token member
      cases member
  | cons token rest ih =>
      unfold agree
      rw [if_neg fun sure => Bool.false_ne_true sure.1]
      cases buffer with
      | nil =>
          intro other _ head member
          cases member
      | cons first behind =>
          dsimp only
          split
          · exact ih behind
          · rename_i differ
            intro other present head member
            cases present
            cases member
            exact differ

theorem insert_buffer (hypothesis : HypothesisBuffer) (tokens : List Token) (offset : ℚ) :
    (hypothesis.insert tokens offset).buffer = hypothesis.buffer := by
  unfold HypothesisBuffer.insert
  dsimp only
  split
  · rfl
  · split <;> rfl

/-- The tokens that are inserted are among those transcribed, in their order. -/
theorem insert_new_sublist (hypothesis : HypothesisBuffer) (tokens : List Token) (offset : ℚ) :
    (hypothesis.insert tokens offset).new.Sublist
      (tokens.map fun token => token.withOffset offset) := by
  unfold HypothesisBuffer.insert
  dsimp only
  split
  · exact List.nil_sublist _
  · split
    · exact (List.drop_sublist _ _).trans List.filter_sublist
    · exact List.filter_sublist

theorem text_withOffset (tokens : List Token) (offset : ℚ) :
    (tokens.map fun token => token.withOffset offset).map Token.text = tokens.map Token.text := by
  rw [List.map_map]
  rfl

/-- What a call commits and the hypothesis that it leaves are the transcription's tokens. -/
theorem commit_sublist :
    ((online.commit asr res).1 ++ (online.commit asr res).2.buffer).Sublist
      (res.tokens.map fun token => token.withOffset online.bufferTimeOffset) := by
  have split : (online.commit asr res).1 ++ (online.commit asr res).2.buffer =
      (online.transcriptBuffer.insert res.tokens online.bufferTimeOffset).new :=
    agree_append _ _ _
  rw [split]
  exact insert_new_sublist _ _ _

/-! ## What a call leaves -/

theorem chunkIfLong_cases (time : ℚ) :
    online.chunkIfLong asr time = online ∨ online.chunkIfLong asr time = online.chunkAt time := by
  unfold Processor.chunkIfLong
  split
  · exact Or.inr rfl
  · exact Or.inl rfl

/-- The trimming by sentences cuts the buffer at most once. -/
theorem trimSentence_cases {committed : List Token}
    (done : online.trimSentence asr committed = some after) :
    after = online ∨ ∃ time, after = online.chunkAt time := by
  unfold Processor.trimSentence at done
  split at done
  · unfold Processor.chunkCompletedSentence at done
    split at done
    · cases done
      exact (chunkIfLong_cases _).imp_right fun cut => ⟨_, cut⟩
    · obtain ⟨sentences, -, rfl⟩ := Option.map_eq_some_iff.mp done
      split
      · exact Or.inr ⟨_, rfl⟩
      · exact (chunkIfLong_cases _).imp_right fun cut => ⟨_, cut⟩
  · cases done
    exact Or.inl rfl

theorem segmentEnd_mem {offset lastCommittedTime time : ℚ} {ends : List ℚ}
    (found : segmentEnd offset lastCommittedTime ends = some time) :
    ∃ end_ ∈ ends, time = end_ + offset := by
  induction ends with
  | nil => cases found
  | cons first rest ih =>
      cases rest with
      | nil => cases found
      | cons second rest =>
          unfold segmentEnd at found
          split at found
          · obtain ⟨end_, member, same⟩ := ih found
            exact ⟨end_, List.mem_cons_of_mem _ member, same⟩
          · exact ⟨second, List.mem_cons_of_mem _ List.mem_cons_self,
              (Option.some.inj found).symm⟩

/-- Where the trimming by segments cuts: in the middle of the buffer where nothing is committed, and
else at the end of the last committed token or at an end of a segment before it. -/
def CutTime (online : Processor) (ends : List ℚ) (time : ℚ) : Prop :=
  match online.committed.getLast? with
  | none => time = online.bufferTimeOffset + online.bufferDuration / 2
  | some last =>
      time = last.end_ ∨ time ≤ last.end_ ∧ ∃ end_ ∈ ends, time = end_ + online.bufferTimeOffset

theorem chunkCompletedSegment_cases (asr : Asr) (online : Processor) (ends : List ℚ) :
    online.chunkCompletedSegment asr ends = online ∨
      ∃ time, CutTime online ends time ∧
        online.chunkCompletedSegment asr ends = online.chunkAt time := by
  unfold Processor.chunkCompletedSegment CutTime
  cases online.committed.getLast? with
  | none => exact (chunkIfLong_cases _).imp_right fun cut => ⟨_, rfl, cut⟩
  | some last =>
      dsimp only
      cases found : segmentEnd online.bufferTimeOffset last.end_ ends.reverse with
      | none => exact (chunkIfLong_cases _).imp_right fun cut => ⟨_, Or.inl rfl, cut⟩
      | some time =>
          dsimp only
          split
          · rename_i committed
            obtain ⟨end_, member, same⟩ := segmentEnd_mem found
            exact Or.inr ⟨time, Or.inr ⟨committed, end_, List.mem_reverse.mp member, same⟩, rfl⟩
          · exact (chunkIfLong_cases _).imp_right fun cut => ⟨_, Or.inl rfl, cut⟩

/-- The trimming by segments cuts the buffer at most once. -/
theorem trimSegment_cases (asr : Asr) (online : Processor) (ends : List ℚ) :
    online.trimSegment asr ends = online ∨
      ∃ time, CutTime online ends time ∧ online.trimSegment asr ends = online.chunkAt time := by
  unfold Processor.trimSegment
  dsimp only
  generalize (if asr.bufferTrimming = .segment then asr.bufferTrimmingSec else 30) = limit
  split
  · exact chunkCompletedSegment_cases asr online ends
  · exact Or.inl rfl

/-- A call resets the processor where it commits nothing, or leaves the hypothesis of its own
transcription. -/
theorem buffer_processIter (asr : Asr) (online : Processor) (res : Transcription) :
    (online.processIter asr (some res)).1.transcriptBuffer.buffer = [] ∨
      (online.processIter asr (some res)).1.transcriptBuffer.buffer =
        (online.commit asr res).2.buffer := by
  unfold Processor.processIter
  dsimp only
  split
  · exact Or.inl rfl
  · refine Or.inr ?_
    split
    · rfl
    · rename_i trimmed done
      dsimp only
      have cut : ∀ {online : Processor} (time : ℚ),
          (online.chunkAt time).transcriptBuffer.buffer = online.transcriptBuffer.buffer :=
        fun time => rfl
      have segments : (trimmed.trimSegment asr res.ends).transcriptBuffer.buffer =
          trimmed.transcriptBuffer.buffer := by
        rcases trimSegment_cases asr trimmed res.ends with same | ⟨time, -, same⟩
        · rw [same]
        · rw [same, cut]
      rw [segments]
      rcases trimSentence_cases done with rfl | ⟨time, rfl⟩
      · rfl
      · rfl

/-! ## Two transcriptions in turn -/

/-- The hypothesis is made of words of the last transcription, in their order. -/
def Hearing.Kept (hearing : Hearing) : Prop :=
  (hearing.online.transcriptBuffer.buffer.map Token.text).Sublist (hearing.heard.map Token.text)

/-- A pass leaves a hypothesis of its own transcription. -/
theorem kept_processIter (asr : Asr) (online : Processor) (res : Transcription) :
    ((online.processIter asr (some res)).1.transcriptBuffer.buffer.map Token.text).Sublist
      (res.tokens.map Token.text) := by
  rcases buffer_processIter asr online res with same | same
  · rw [same]
    exact List.nil_sublist _
  · rw [same, ← text_withOffset res.tokens online.bufferTimeOffset]
    exact ((List.sublist_append_right _ _).trans commit_sublist).map _

theorem kept_step {hearing next : Hearing} {call : Call} (kept : hearing.Kept)
    (taken : hearing.step asr call = some next) : next.Kept := by
  have pass : ∀ outcome : Option Transcription,
      ((hearing.online.processIter asr outcome).1.transcriptBuffer.buffer.map Token.text).Sublist
        (((outcome.map Transcription.tokens).getD hearing.heard).map Token.text) := by
    intro outcome
    cases outcome with
    | none => exact kept
    | some res => exact kept_processIter asr hearing.online res
  cases taken
  cases call with
  | insertAudioChunk samples => exact kept
  | processIter outcome => exact pass outcome
  | startSilence outcome =>
      unfold Hearing.Kept Processor.call Processor.transcribed Processor.startSilence
      dsimp only
      split
      · exact kept
      · exact pass outcome
  | endSilence silenceDuration offset =>
      unfold Hearing.Kept Processor.call Processor.transcribed Processor.endSilence
      dsimp only
      cases silenceDuration with
      | none => exact kept
      | some duration =>
          dsimp only
          split
          · exact kept
          · split
            · exact kept
            · exact List.nil_sublist _
  | newSpeaker start outcome =>
      unfold Hearing.Kept Processor.call Processor.newSpeaker
      dsimp only
      split
      · rename_i after raised
        have left := pass outcome
        rw [raised] at left
        exact left
      · exact List.nil_sublist _
  | finish => exact kept

/-- **A word is committed when it is heard a second time.** The words that a call commits begin the
hypothesis that the call before has left, and go on until the two differ. They are among those of the
last transcription and among those of the call's own, in the order of both. -/
theorem committed_heard_twice (unsure : asr.confidenceValidation = false) {past : List Call}
    {hearing : Hearing} (run : execute (Hearing.step asr) .start past = some hearing)
    (call : Call) (res : Transcription) (called : hearing.online.transcribed call = some res) :
    let committed := hearing.online.committedBy asr call
    committed.map Token.text <+: hearing.online.transcriptBuffer.buffer.map Token.text ∧
      (∀ token ∈ (hearing.online.commit asr res).2.buffer.head?,
        ∀ other ∈ (hearing.online.transcriptBuffer.buffer.drop committed.length).head?,
          token.text ≠ other.text) ∧
      (committed.map Token.text).Sublist (hearing.heard.map Token.text) ∧
      committed.Sublist
        (res.tokens.map fun token => token.withOffset hearing.online.bufferTimeOffset) := by
  have kept : hearing.Kept := by
    have initial : Hearing.start.Kept := List.nil_sublist _
    exact execute_invariant_of_step initial (fun _ _ _ kept taken => kept_step kept taken) run
  have commits : hearing.online.committedBy asr call = (hearing.online.commit asr res).1 := by
    unfold Processor.committedBy
    rw [called]
    rfl
  have agreed : hearing.online.commit asr res =
      ((agree false (hearing.online.transcriptBuffer.insert res.tokens
          hearing.online.bufferTimeOffset).new hearing.online.transcriptBuffer.buffer).1,
        (hearing.online.commit asr res).2) := by
    unfold Processor.commit HypothesisBuffer.flush
    rw [unsure, insert_buffer]
  have left : (hearing.online.commit asr res).2.buffer =
      (agree false (hearing.online.transcriptBuffer.insert res.tokens
        hearing.online.bufferTimeOffset).new hearing.online.transcriptBuffer.buffer).2 := by
    unfold Processor.commit HypothesisBuffer.flush
    rw [unsure, insert_buffer]
  have begins : (hearing.online.commit asr res).1.map Token.text <+:
      hearing.online.transcriptBuffer.buffer.map Token.text := by
    rw [agreed]
    exact agree_isPrefix _ _
  dsimp only
  rw [commits]
  refine ⟨begins, ?_, begins.sublist.trans kept, ?_⟩
  · rw [left, agreed]
    exact agree_longest _ _
  · exact (List.sublist_append_left _ _).trans commit_sublist

/-- A second of audio, and a transcription of it with one word. -/
def oneWord : Token := ⟨['a'], 0, 1, none⟩

/-- The second time that it is heard, the word is committed. -/
theorem committed_heard_twice_word :
    let hearing : Hearing := ⟨⟨16000, ⟨[], [oneWord], [], 0⟩, 0, [], 0⟩, [oneWord]⟩
    let call : Call := .processIter (some ⟨[oneWord], [1]⟩)
    hearing.online.committedBy segmentAsr call = [oneWord] ∧
      ((hearing.online.committedBy segmentAsr call).map Token.text).Sublist
        (hearing.heard.map Token.text) := by
  intro hearing call
  have run : execute (Hearing.step segmentAsr) .start
      [.insertAudioChunk 16000, .processIter (some ⟨[oneWord], [1]⟩)] = some hearing := by
    decide +kernel
  exact ⟨by decide +kernel,
    (committed_heard_twice rfl run call ⟨[oneWord], [1]⟩ rfl).2.2.1⟩

/-! ## Time -/

/-- The samples that an action adds. -/
def Action.samples : Action → ℕ
  | .insertAudioChunk samples => samples
  | .processIter _ => 0

/-- The samples that a run has inserted. -/
def inserted (past : List Action) : ℕ := (past.map Action.samples).sum

/-- The passes of a run over the buffer. -/
def passes (past : List Action) : ℕ :=
  past.countP fun
    | .insertAudioChunk _ => false
    | .processIter _ => true

/-- The words of a transcription follow one another within the audio that was transcribed, and no
segment ends before it. -/
def InOrder (duration : ℚ) (res : Transcription) : Prop :=
  (∀ token ∈ res.tokens, 0 ≤ token.start ∧ token.start ≤ token.end_ ∧ token.end_ ≤ duration) ∧
    res.tokens.Pairwise (fun earlier later => earlier.end_ ≤ later.start) ∧
    ∀ end_ ∈ res.ends, 0 ≤ end_

instance (duration : ℚ) (res : Transcription) : Decidable (InOrder duration res) :=
  inferInstanceAs (Decidable (_ ∧ _ ∧ _))

/-- The recogniser's times are in order. -/
def Timed (_ : List Action) (session : Session) : Action → Prop
  | .processIter (some res) => InOrder session.online.bufferDuration res
  | .processIter none | .insertAudioChunk _ => True

instance (past : List Action) (session : Session) : ∀ action, Decidable (Timed past session action)
  | .processIter (some _) => inferInstanceAs (Decidable (InOrder _ _))
  | .processIter none | .insertAudioChunk _ => inferInstanceAs (Decidable True)

/-- Two words of which the second begins less than a tenth of a second before the first ends, or
later. -/
def Follows (earlier later : Token) : Prop := earlier.end_ - 1 / 10 < later.start

/-- What all that is committed has to do with the clock of the buffer. -/
structure InTime (session : Session) : Prop where
  suffix : session.online.committed <:+ session.spoken
  within : ∀ token ∈ session.spoken, token.end_ ≤ session.online.audioBufferEndTime
  offset : ∀ last ∈ session.online.committed.getLast?, session.online.bufferTimeOffset ≤ last.end_
  last : ∀ last ∈ session.spoken.getLast?,
    last.end_ ≤ session.online.transcriptBuffer.lastCommittedTime
  follows : session.spoken.IsChain Follows

/-- Rounding towards zero is rounding down where nothing is negative. -/
theorem tdiv_eq_floor {value : ℚ} (nonneg : 0 ≤ value) :
    value.num.tdiv value.den = value.floor := by
  rw [Rat.floor_def, Int.tdiv_eq_ediv_of_nonneg (Rat.num_nonneg.mpr nonneg)]

/-- What is left of a buffer that is cut within it. -/
theorem lengthFrom_floor {length : ℕ} {cut : ℚ} (nonneg : 0 ≤ cut) (short : cut ≤ length) :
    (lengthFrom length (cut.num.tdiv cut.den) : ℚ) = length - cut.floor := by
  have first : 0 ≤ cut.floor := Rat.le_floor_iff.mpr (by exact_mod_cast nonneg)
  have last : cut.floor ≤ (length : ℤ) := by
    have below : (cut.floor : ℚ) ≤ (length : ℚ) := (Rat.floor_le cut).trans short
    exact_mod_cast below
  have fits : cut.floor.toNat ≤ length := Int.toNat_le.mpr last
  rw [tdiv_eq_floor nonneg, lengthFrom, if_pos first, Nat.cast_sub fits]
  congr 1
  exact_mod_cast congrArg (Int.cast (R := ℚ)) (Int.toNat_of_nonneg first)

/-- A cut within the buffer moves its end by less than a sample. -/
theorem audioBufferEndTime_chunkAt {time : ℚ} (lower : online.bufferTimeOffset ≤ time)
    (upper : time ≤ online.audioBufferEndTime) :
    online.audioBufferEndTime ≤ (online.chunkAt time).audioBufferEndTime ∧
      (online.chunkAt time).audioBufferEndTime ≤ online.audioBufferEndTime + 1 / samplingRate := by
  have end_ : online.audioBufferEndTime = online.bufferTimeOffset + online.audio / 16000 := rfl
  have nonneg : 0 ≤ (time - online.bufferTimeOffset) * samplingRate := by
    unfold samplingRate
    linarith
  have short : (time - online.bufferTimeOffset) * samplingRate ≤ online.audio := by
    unfold samplingRate
    linarith
  have left : (online.chunkAt time).audioBufferEndTime =
      time + (online.audio -
        ((time - online.bufferTimeOffset) * samplingRate).floor) / samplingRate := by
    rw [← lengthFrom_floor nonneg short]
    rfl
  have below := Rat.floor_le ((time - online.bufferTimeOffset) * samplingRate)
  have above := Rat.lt_floor_add_one ((time - online.bufferTimeOffset) * samplingRate)
  rw [left, end_]
  push_cast at above
  unfold samplingRate at below above ⊢
  constructor
  · linarith
  · linarith

/-- The trimming by segments cuts within the buffer, and behind no committed token. -/
theorem cutTime_within {session : Session} {ends : List ℚ} {time : ℚ} (inTime : InTime session)
    (nonneg : ∀ end_ ∈ ends, 0 ≤ end_) (cut : CutTime session.online ends time) :
    session.online.bufferTimeOffset ≤ time ∧ time ≤ session.online.audioBufferEndTime ∧
      ∀ last ∈ session.online.committed.getLast?, time ≤ last.end_ := by
  unfold CutTime at cut
  cases found : session.online.committed.getLast? with
  | none =>
      rw [found] at cut
      have duration : 0 ≤ session.online.bufferDuration := by
        unfold Processor.bufferDuration samplingRate
        positivity
      subst cut
      unfold Processor.audioBufferEndTime
      refine ⟨by linarith, by linarith, fun last member => ?_⟩
      cases member
  | some last =>
      rw [found] at cut
      have lower := inTime.offset last found
      have upper : last.end_ ≤ session.online.audioBufferEndTime :=
        inTime.within last (inTime.suffix.subset (List.mem_of_getLast? found))
      have only : ∀ other ∈ some last, last.end_ ≤ other.end_ := by
        intro other same
        exact (congrArg Token.end_ (Option.some.inj same)).le
      rcases cut with rfl | ⟨before, end_, member, rfl⟩
      · exact ⟨lower, upper, only⟩
      · have first := nonneg end_ member
        exact ⟨by linarith, before.trans upper, fun other same => before.trans (only other same)⟩

/-- The trimming by segments keeps what is in time. -/
theorem inTime_trimSegment {session : Session} {ends : List ℚ} (inTime : InTime session)
    (nonneg : ∀ end_ ∈ ends, 0 ≤ end_) :
    let after := session.online.trimSegment asr ends
    InTime ⟨after, session.spoken⟩ ∧
      session.online.audioBufferEndTime ≤ after.audioBufferEndTime ∧
      after.audioBufferEndTime ≤ session.online.audioBufferEndTime + 1 / samplingRate := by
  dsimp only
  rcases trimSegment_cases asr session.online ends with same | ⟨time, cut, same⟩
  · rw [same]
    refine ⟨inTime, le_rfl, ?_⟩
    have sample : 0 ≤ 1 / samplingRate := by
      unfold samplingRate
      norm_num
    linarith
  · rw [same]
    obtain ⟨lower, upper, before⟩ := cutTime_within inTime nonneg cut
    have moved := audioBufferEndTime_chunkAt lower upper
    refine ⟨?_, moved⟩
    exact
      { suffix := inTime.suffix
        within := fun token member => (inTime.within token member).trans moved.1
        offset := before
        last := inTime.last
        follows := inTime.follows }

/-- A word that is kept begins after the last committed one, but for a tenth of a second. -/
theorem start_of_mem_insert {hypothesis : HypothesisBuffer} {tokens : List Token} {offset : ℚ}
    {token : Token} (member : token ∈ (hypothesis.insert tokens offset).new) :
    hypothesis.lastCommittedTime - 1 / 10 < token.start := by
  have among : token ∈ (tokens.map fun token => token.withOffset offset).filter fun token =>
      hypothesis.lastCommittedTime - 1 / 10 < token.start := by
    unfold HypothesisBuffer.insert at member
    dsimp only at member
    split at member
    · cases member
    · split at member
      · exact List.mem_of_mem_drop member
      · exact member
  exact of_decide_eq_true (List.mem_filter.mp among).2

theorem insert_lastCommittedTime (hypothesis : HypothesisBuffer) (tokens : List Token)
    (offset : ℚ) :
    (hypothesis.insert tokens offset).lastCommittedTime = hypothesis.lastCommittedTime := by
  unfold HypothesisBuffer.insert
  dsimp only
  split
  · rfl
  · split <;> rfl

/-- The last committed time behind a pass. -/
theorem commit_lastCommittedTime :
    (online.commit asr res).2.lastCommittedTime =
      ((online.commit asr res).1.getLast?.map Token.end_).getD
        online.transcriptBuffer.lastCommittedTime :=
  congrArg ((online.commit asr res).1.getLast?.map Token.end_).getD
    (insert_lastCommittedTime _ _ _)

/-- The words that a pass commits follow one another within the buffer, behind what is committed. -/
theorem commit_inOrder (inOrder : InOrder online.bufferDuration res) :
    (online.commit asr res).1.IsChain Follows ∧
      ∀ token ∈ (online.commit asr res).1,
        online.transcriptBuffer.lastCommittedTime - 1 / 10 < token.start ∧
          online.bufferTimeOffset ≤ token.end_ ∧ token.end_ ≤ online.audioBufferEndTime := by
  obtain ⟨within, ordered, -⟩ := inOrder
  have among : (online.commit asr res).1.Sublist
      (res.tokens.map fun token => token.withOffset online.bufferTimeOffset) :=
    (List.sublist_append_left _ _).trans commit_sublist
  constructor
  · apply List.Pairwise.isChain
    refine List.Pairwise.sublist among (List.pairwise_map.mpr (ordered.imp ?_))
    intro earlier later follow
    have moved : earlier.end_ + online.bufferTimeOffset ≤
        later.start + online.bufferTimeOffset := by linarith
    show earlier.end_ + online.bufferTimeOffset - 1 / 10 < later.start + online.bufferTimeOffset
    linarith
  · intro token member
    refine ⟨start_of_mem_insert (mem_of_mem_agree member), ?_⟩
    obtain ⟨heard, present, rfl⟩ := List.mem_map.mp (among.subset member)
    obtain ⟨first, order, last⟩ := within heard present
    show online.bufferTimeOffset ≤ heard.end_ + online.bufferTimeOffset ∧
      heard.end_ + online.bufferTimeOffset ≤ online.bufferTimeOffset + online.bufferDuration
    exact ⟨by linarith, by linarith⟩

/-- What a pass commits is in time. -/
theorem inTime_extend {session : Session} (inTime : InTime session)
    (inOrder : InOrder session.online.bufferDuration res) :
    let agreed := session.online.commit asr res
    InTime ⟨session.online.extend agreed.1 agreed.2, session.spoken ++ agreed.1⟩ := by
  obtain ⟨chain, each⟩ := @commit_inOrder asr _ _ inOrder
  have later := @commit_lastCommittedTime asr session.online res
  generalize session.online.commit asr res = agreed at chain each later
  dsimp only
  refine
    { suffix := ?_
      within := ?_
      offset := ?_
      last := ?_
      follows := ?_ }
  · obtain ⟨before, split⟩ := inTime.suffix
    exact ⟨before, by rw [← split, List.append_assoc]; rfl⟩
  · intro token member
    rcases List.mem_append.mp member with early | now
    · exact inTime.within token early
    · exact (each token now).2.2
  · intro last member
    rw [Option.mem_def, Processor.extend, List.getLast?_append] at member
    cases found : agreed.1.getLast? with
    | none =>
        rw [found, Option.none_or] at member
        exact inTime.offset last member
    | some final =>
        rw [found, Option.some_or] at member
        cases member
        exact (each last (List.mem_of_getLast? found)).2.1
  · intro last member
    show last.end_ ≤ agreed.2.lastCommittedTime
    rw [Option.mem_def, List.getLast?_append] at member
    rw [later]
    cases found : agreed.1.getLast? with
    | none =>
        rw [found, Option.none_or] at member
        exact inTime.last last member
    | some final =>
        rw [found, Option.some_or] at member
        cases member
        exact le_rfl
  · refine inTime.follows.append chain ?_
    intro last member first found
    have start := (each first (List.mem_of_head? found)).1
    have ended := inTime.last last member
    show last.end_ - 1 / 10 < first.start
    linarith

/-- A reset where the audio ends keeps what is in time. -/
theorem inTime_init {session : Session} (inTime : InTime session) :
    InTime ⟨.init (some session.online.audioBufferEndTime), session.spoken⟩ where
  suffix := List.nil_suffix
  within token member := by
    have ended := inTime.within token member
    show token.end_ ≤ session.online.audioBufferEndTime + 0 / samplingRate
    rw [zero_div, add_zero]
    exact ended
  offset last member := by cases member
  last last member := inTime.within last (List.mem_of_getLast? member)
  follows := inTime.follows

/-- A pass with the trimming by segments resets the processor, or trims what it has committed. -/
theorem processIter_cases (segment : asr.bufferTrimming = .segment) (online : Processor)
    (res : Transcription) :
    let agreed := online.commit asr res
    agreed.1 = [] ∧ (online.processIter asr (some res)).1 = .init (some online.audioBufferEndTime) ∨
      (online.processIter asr (some res)).1 =
        (online.extend agreed.1 agreed.2).trimSegment asr res.ends := by
  have untrimmed : ∀ extended : Processor, ∀ committed,
      extended.trimSentence asr committed = some extended := by
    intro extended committed
    unfold Processor.trimSentence
    rw [if_neg]
    intro wanted
    exact Trimming.noConfusion (segment.symm.trans wanted.2.1)
  unfold Processor.processIter
  dsimp only
  split
  · rename_i frozen
    exact Or.inl ⟨frozen.1, rfl⟩
  · rw [untrimmed]
    exact Or.inr rfl

/-- A pass keeps what is in time, and moves the end of the buffer by at most a sample. -/
theorem inTime_processIter (segment : asr.bufferTrimming = .segment) {session : Session}
    (inTime : InTime session) (inOrder : InOrder session.online.bufferDuration res) :
    let after := (session.online.processIter asr (some res)).1
    InTime ⟨after, session.spoken ++ (session.online.commit asr res).1⟩ ∧
      session.online.audioBufferEndTime ≤ after.audioBufferEndTime ∧
      after.audioBufferEndTime ≤ session.online.audioBufferEndTime + 1 / samplingRate := by
  dsimp only
  rcases processIter_cases segment session.online res with ⟨silent, reset⟩ | trimmed
  · rw [silent, reset, List.append_nil]
    have same : (Processor.init (some session.online.audioBufferEndTime)).audioBufferEndTime =
        session.online.audioBufferEndTime := by
      show session.online.audioBufferEndTime + 0 / samplingRate = _
      rw [zero_div, add_zero]
    have sample : 0 ≤ 1 / samplingRate := by
      unfold samplingRate
      norm_num
    rw [same]
    exact ⟨inTime_init inTime, le_rfl, by linarith⟩
  · rw [trimmed]
    exact inTime_trimSegment (inTime_extend inTime inOrder) inOrder.2.2

/-- The clock of the buffer against the samples inserted and the passes made. -/
def OnTime (past : List Action) (session : Session) : Prop :=
  (inserted past : ℚ) ≤ session.online.audioBufferEndTime * samplingRate ∧
    session.online.audioBufferEndTime * samplingRate ≤ inserted past + passes past

theorem inserted_concat (past : List Action) (action : Action) :
    inserted (past ++ [action]) = inserted past + action.samples := by
  unfold inserted
  rw [List.map_append, List.sum_append, List.map_singleton, List.sum_singleton]

theorem passes_concat_insert (past : List Action) (samples : ℕ) :
    passes (past ++ [.insertAudioChunk samples]) = passes past :=
  List.countP_append

theorem passes_concat_pass (past : List Action) (outcome : Option Transcription) :
    passes (past ++ [.processIter outcome]) = passes past + 1 :=
  List.countP_append

theorem inTime_start : InTime .start where
  suffix := List.suffix_rfl
  within _ member := by cases member
  offset _ member := by cases member
  last _ member := by cases member
  follows := List.isChain_nil

theorem audioBufferEndTime_insertAudioChunk (samples : ℕ) :
    (online.insertAudioChunk samples).audioBufferEndTime =
      online.audioBufferEndTime + samples / samplingRate := by
  unfold Processor.audioBufferEndTime Processor.bufferDuration Processor.insertAudioChunk
  push_cast
  rw [add_div, ← add_assoc]

/-- Audio that is inserted keeps what is in time. -/
theorem inTime_insertAudioChunk {session : Session} (inTime : InTime session) (samples : ℕ) :
    InTime ⟨session.online.insertAudioChunk samples, session.spoken⟩ where
  suffix := inTime.suffix
  within token member := by
    have ended := inTime.within token member
    have more : (0 : ℚ) ≤ samples / samplingRate := by
      unfold samplingRate
      positivity
    show token.end_ ≤ (session.online.insertAudioChunk samples).audioBufferEndTime
    rw [audioBufferEndTime_insertAudioChunk]
    linarith
  offset := inTime.offset
  last := inTime.last
  follows := inTime.follows

/-- An action keeps the two, where the recogniser's times are in order. -/
theorem timely_step (segment : asr.bufferTrimming = .segment) {past : List Action}
    {before next : Session} {action : Action} (inTime : InTime before) (onTime : OnTime past before)
    (timed : Timed past before action) (taken : step asr before action = some next) :
    InTime next ∧ OnTime (past ++ [action]) next := by
  obtain ⟨early, late⟩ := onTime
  unfold OnTime
  rw [inserted_concat]
  cases action with
  | insertAudioChunk samples =>
      cases taken
      refine ⟨inTime_insertAudioChunk inTime samples, ?_⟩
      rw [passes_concat_insert]
      dsimp only [Action.samples]
      rw [audioBufferEndTime_insertAudioChunk]
      unfold samplingRate at early late ⊢
      push_cast
      exact ⟨by linarith, by linarith⟩
  | processIter outcome =>
      cases taken
      rw [passes_concat_pass]
      cases outcome with
      | none =>
          dsimp only [Option.map_none, Option.getD_none]
          rw [List.append_nil]
          refine ⟨inTime, ?_⟩
          dsimp only [Action.samples, Processor.processIter]
          push_cast
          exact ⟨by linarith, by linarith⟩
      | some res =>
          obtain ⟨kept, lower, upper⟩ := inTime_processIter segment inTime timed
          refine ⟨kept, ?_⟩
          dsimp only [Action.samples]
          unfold samplingRate at early late upper ⊢
          push_cast
          exact ⟨by linarith, by linarith⟩

/-- What a run keeps. -/
theorem timely_of_execute (segment : asr.bufferTrimming = .segment) {actions : List Action}
    {session : Session} (timed : Meets (step asr) Timed [] .start actions)
    (run : execute (step asr) .start actions = some session) :
    InTime session ∧ OnTime actions session := by
  have initial : InTime .start ∧ OnTime [] .start :=
    ⟨inTime_start, by decide +kernel, by decide +kernel⟩
  exact execute_induction (motive := fun past session => InTime session ∧ OnTime past session)
    initial (fun past before action after _ kept met taken =>
      timely_step segment kept.1 kept.2 met taken) timed run

/-- Three words, of which two are committed before the buffer is cut between two samples. -/
def cutBetweenSamples : List Action :=
  let first : Token := ⟨['a'], 0, 1, none⟩
  let second : Token := ⟨['b'], 1, 2, none⟩
  [.insertAudioChunk 32000, .processIter (some ⟨[first, second], [2]⟩),
    .processIter (some ⟨[first, second], [2]⟩), .insertAudioChunk 224000,
    .processIter (some ⟨[first, second, ⟨['c'], 2, 3, none⟩], [4 / 3, 3]⟩),
    .processIter (some ⟨[⟨['c'], 2 / 3, 5 / 3, none⟩], [5 / 3]⟩)]

/-- The session that it ends in. -/
def cutSession : Session := (execute (step segmentAsr) .start cutBetweenSamples).getD .start

/-- **The transcript is in order.** Over a whole session, resets included, a word begins less than a
tenth of a second before the word ahead of it ends, or later. -/
theorem spoken_in_order (segment : asr.bufferTrimming = .segment) {actions : List Action}
    {session : Session} (timed : Meets (step asr) Timed [] .start actions)
    (run : execute (step asr) .start actions = some session) :
    session.spoken.IsChain Follows := by
  obtain ⟨inTime, -⟩ := timely_of_execute segment timed run
  exact inTime.follows

/-- The three words are committed, each once. -/
theorem spoken_in_order_cut :
    cutSession.spoken.map Token.text = [['a'], ['b'], ['c']] ∧
      cutSession.spoken.IsChain Follows := by
  have run : execute (step segmentAsr) .start cutBetweenSamples = some cutSession := rfl
  exact ⟨by decide +kernel, spoken_in_order rfl (by decide +kernel) run⟩

end Panakoes.TranscriberStream.OnlineAsr
