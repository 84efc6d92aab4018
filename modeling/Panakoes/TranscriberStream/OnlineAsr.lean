import Mathlib.Algebra.Order.Ring.Rat
import Panakoes.Foundation.PyStrip

/-! # The streaming transcriber

`HypothesisBuffer` and `OnlineASRProcessor`. A token is committed where two transcriptions in turn
agree on it. Times are rational numbers, and of the audio only the number of samples is kept. The
recogniser and the sentence tokenizer are not part of it: a transcription is what they return.
-/

namespace Panakoes.TranscriberStream.OnlineAsr

/-- An `ASRToken`. -/
structure Token where
  text : List Char
  start : ℚ
  end_ : ℚ
  probability : Option ℚ
  deriving DecidableEq

/-- `with_offset`. -/
def Token.withOffset (token : Token) (offset : ℚ) : Token :=
  { token with start := token.start + offset, end_ := token.end_ + offset }

/-- `sep.join(token.text for token in tokens)`. -/
def textOf (sep : List Char) (tokens : List Token) : List Char :=
  sep.intercalate (tokens.map Token.text)

inductive Trimming where
  | sentence
  | segment
  deriving DecidableEq

/-- What the processor takes from the recogniser. Its constructor refuses a trimming time that is not
positive. A tokenizer that raises gives nothing. -/
structure Asr where
  sep : List Char
  tokenizer : Option (List Char → Option (List (List Char)))
  confidenceValidation : Bool
  bufferTrimming : Trimming
  bufferTrimmingSec : ℚ
  positive : 0 < bufferTrimmingSec

/-! ## The hypothesis buffer -/

structure HypothesisBuffer where
  committedInBuffer : List Token
  buffer : List Token
  new : List Token
  lastCommittedTime : ℚ
  deriving DecidableEq

/-- How many of the new tokens repeat the last committed ones: the least number from 1 to 5 of which
the texts are the same. -/
def repeated (committed new : List Token) : ℕ :=
  let maxNgram := min (min committed.length new.length) 5
  ((List.range' 1 maxNgram).find? fun i =>
    textOf [' '] (committed.drop (committed.length - i)) = textOf [' '] (new.take i)).getD 0

/-- `insert`. -/
def HypothesisBuffer.insert (hypothesis : HypothesisBuffer) (tokens : List Token) (offset : ℚ) :
    HypothesisBuffer :=
  let new := (tokens.map fun token => token.withOffset offset).filter fun token =>
    hypothesis.lastCommittedTime - 1 / 10 < token.start
  match new with
  | [] => { hypothesis with new := [] }
  | first :: _ =>
      if |first.start - hypothesis.lastCommittedTime| < 1 then
        { hypothesis with new := new.drop (repeated hypothesis.committedInBuffer new) }
      else { hypothesis with new }

/-- The loop of `flush`: the new tokens that agree with the last hypothesis, or that the recogniser is
sure of, and those that are left. -/
def agree (confidenceValidation : Bool) : List Token → List Token → List Token × List Token
  | [], _ => ([], [])
  | token :: rest, buffer =>
      if confidenceValidation ∧ token.probability.any (19 / 20 < ·) then
        let more := agree confidenceValidation rest buffer.tail
        (token :: more.1, more.2)
      else
        match buffer with
        | [] => ([], token :: rest)
        | head :: behind =>
            if token.text = head.text then
              let more := agree confidenceValidation rest behind
              (token :: more.1, more.2)
            else ([], token :: rest)

/-- `flush`. -/
def HypothesisBuffer.flush (confidenceValidation : Bool) (hypothesis : HypothesisBuffer) :
    List Token × HypothesisBuffer :=
  let agreed := agree confidenceValidation hypothesis.new hypothesis.buffer
  (agreed.1,
    { committedInBuffer := hypothesis.committedInBuffer ++ agreed.1
      buffer := agreed.2
      new := []
      lastCommittedTime := (agreed.1.getLast?.map Token.end_).getD hypothesis.lastCommittedTime })

/-- `pop_committed`. -/
def HypothesisBuffer.popCommitted (hypothesis : HypothesisBuffer) (time : ℚ) : HypothesisBuffer :=
  { hypothesis with
    committedInBuffer := hypothesis.committedInBuffer.dropWhile fun token => token.end_ ≤ time }

/-! ## The processor -/

structure Processor where
  audio : ℕ
  transcriptBuffer : HypothesisBuffer
  bufferTimeOffset : ℚ
  committed : List Token
  timeOfLastAsrOutput : ℚ
  deriving DecidableEq

def samplingRate : ℚ := 16000

/-- `init`. -/
def Processor.init (offset : Option ℚ) : Processor where
  audio := 0
  transcriptBuffer := ⟨[], [], [], offset.getD 0⟩
  bufferTimeOffset := offset.getD 0
  committed := []
  timeOfLastAsrOutput := 0

/-- `len(self.audio_buffer) / self.SAMPLING_RATE`. -/
def Processor.bufferDuration (online : Processor) : ℚ := online.audio / samplingRate

/-- `get_audio_buffer_end_time`. -/
def Processor.audioBufferEndTime (online : Processor) : ℚ :=
  online.bufferTimeOffset + online.bufferDuration

/-- `insert_audio_chunk`. -/
def Processor.insertAudioChunk (online : Processor) (samples : ℕ) : Processor :=
  { online with audio := online.audio + samples }

/-- The last words, from the end, until they have 200 characters. -/
def lastWords (lengthCount : ℕ) : List (List Char) → List (List Char)
  | [] => []
  | word :: rest =>
      if lengthCount < 200 then word :: lastWords (lengthCount + word.length + 1) rest else []

/-- The committed tokens up to the last that has ended where the buffer starts. -/
def Processor.promptTokens (online : Processor) : List Token :=
  online.committed.rdropWhile fun token => online.bufferTimeOffset < token.end_

/-- `prompt`. -/
def Processor.prompt (asr : Asr) (online : Processor) : List Char × List Char :=
  let words := lastWords 0 (online.promptTokens.map Token.text).reverse
  (asr.sep.intercalate words.reverse,
    textOf asr.sep (online.committed.rtakeWhile fun token =>
      online.bufferTimeOffset < token.end_))

/-- `len(buffer[start:])`. -/
def lengthFrom (length : ℕ) (start : ℤ) : ℕ :=
  if 0 ≤ start then length - start.toNat else min length (-start).toNat

/-- `chunk_at`. `int` rounds towards zero. -/
def Processor.chunkAt (online : Processor) (time : ℚ) : Processor :=
  let cut := (time - online.bufferTimeOffset) * samplingRate
  { online with
    transcriptBuffer := online.transcriptBuffer.popCommitted time
    audio := lengthFrom online.audio (cut.num.tdiv cut.den)
    bufferTimeOffset := time }

/-- The cut that is made where the buffer is too long. -/
def Processor.chunkIfLong (asr : Asr) (online : Processor) (time : ℚ) : Processor :=
  if asr.bufferTrimmingSec < online.bufferDuration then online.chunkAt time else online

/-- A `Sentence`. -/
structure Sentence where
  start : ℚ
  end_ : ℚ
  text : List Char

/-- The tokens of a sentence, taken until their text is as long as the sentence's, and those behind
them. -/
def takeSentence (text accumulated : List Char) : List Token → List Token × List Token
  | [] => ([], [])
  | token :: rest =>
      if accumulated.length < text.length then
        let longer :=
          if accumulated = [] then token.text
          else PyText.strip (accumulated ++ [' '] ++ token.text)
        let more := takeSentence text longer rest
        (token :: more.1, more.2)
      else ([], token :: rest)

/-- The loop of `words_to_sentences`. -/
def sentencesOf : List (List Char) → List Token → List Sentence
  | [], _ => []
  | text :: texts, tokens =>
      let text := PyText.strip text
      if text = [] then sentencesOf texts tokens
      else
        let taken := takeSentence text [] tokens
        match taken.1.head?, taken.1.getLast? with
        | some first, some last =>
            ⟨first.start, last.end_, textOf [' '] taken.1⟩ :: sentencesOf texts taken.2
        | _, _ => sentencesOf texts taken.2

/-- `words_to_sentences`, which raises where the tokenizer does. -/
def wordsToSentences (asr : Asr) (tokens : List Token) : Option (List Sentence) :=
  if tokens = [] then some []
  else
    let fullText := textOf [' '] tokens
    match asr.tokenizer with
    | none => some (sentencesOf [fullText] tokens)
    | some tokenize => (tokenize fullText).map fun texts => sentencesOf texts tokens

/-- `chunk_completed_sentence`. -/
def Processor.chunkCompletedSentence (asr : Asr) (online : Processor) : Option Processor :=
  match online.committed.getLast? with
  | none =>
      some (online.chunkIfLong asr (online.bufferTimeOffset + online.bufferDuration / 2))
  | some last =>
      (wordsToSentences asr online.committed).map fun sentences =>
        -- of the sentences the last two are kept, and the first of these is read
        match sentences.reverse with
        | _ :: penultimate :: _ => online.chunkAt penultimate.end_
        | _ => online.chunkIfLong asr last.end_

/-- The end to cut at, among the ends of the segments with the last one first. -/
def segmentEnd (offset lastCommittedTime : ℚ) : List ℚ → Option ℚ
  | _ :: second :: rest =>
      if rest ≠ [] ∧ lastCommittedTime < second + offset then
        segmentEnd offset lastCommittedTime (second :: rest)
      else some (second + offset)
  | _ => none

/-- `chunk_completed_segment`. -/
def Processor.chunkCompletedSegment (asr : Asr) (online : Processor) (ends : List ℚ) : Processor :=
  match online.committed.getLast? with
  | none => online.chunkIfLong asr (online.bufferTimeOffset + online.bufferDuration / 2)
  | some last =>
      match segmentEnd online.bufferTimeOffset last.end_ ends.reverse with
      | some e => if e ≤ last.end_ then online.chunkAt e else online.chunkIfLong asr last.end_
      | none => online.chunkIfLong asr last.end_

/-- What the recogniser returns: the tokens, and the ends of the segments. -/
structure Transcription where
  tokens : List Token
  ends : List ℚ

/-- The tokens that a transcription commits, and the hypothesis that is left. -/
def Processor.commit (asr : Asr) (online : Processor) (res : Transcription) :
    List Token × HypothesisBuffer :=
  (online.transcriptBuffer.insert res.tokens online.bufferTimeOffset).flush
    asr.confidenceValidation

/-- The tokens are added to those committed. -/
def Processor.extend (online : Processor) (committed : List Token)
    (transcriptBuffer : HypothesisBuffer) : Processor :=
  { online with
    transcriptBuffer
    committed := online.committed ++ committed
    timeOfLastAsrOutput := (committed.getLast?.map Token.end_).getD online.timeOfLastAsrOutput }

/-- The trimming of the buffer by sentences, which raises where the tokenizer does. -/
def Processor.trimSentence (asr : Asr) (online : Processor) (committed : List Token) :
    Option Processor :=
  if committed ≠ [] ∧ asr.bufferTrimming = .sentence ∧
      asr.bufferTrimmingSec < online.bufferDuration then
    online.chunkCompletedSentence asr
  else some online

/-- The trimming of the buffer by segments. -/
def Processor.trimSegment (asr : Asr) (online : Processor) (ends : List ℚ) : Processor :=
  let limit := if asr.bufferTrimming = .segment then asr.bufferTrimmingSec else 30
  if limit < online.bufferDuration then online.chunkCompletedSegment asr ends else online

/-- `process_iter`: the processor behind it, and what it returns. The recogniser may raise, and then
nothing changes. -/
def Processor.processIter (asr : Asr) (online : Processor) :
    Option Transcription → Processor × Option (List Token × ℚ)
  | none => (online, none)
  | some res =>
      let processedUpto := online.audioBufferEndTime
      let agreed := online.commit asr res
      let extended := online.extend agreed.1 agreed.2
      if agreed.1 = [] ∧ asr.bufferTrimmingSec < extended.bufferDuration ∧
          asr.bufferTrimmingSec <
            extended.audioBufferEndTime - extended.timeOfLastAsrOutput then
        -- the reset that is to prevent freezing
        (.init (some extended.audioBufferEndTime), some ([], processedUpto))
      else
        match extended.trimSentence asr agreed.1 with
        | none => (extended, none)
        | some trimmed => (trimmed.trimSegment asr res.ends, some (agreed.1, processedUpto))

/-! ## What is committed -/

variable {asr : Asr} {online : Processor} {token : Token}

theorem mem_of_mem_agree {confidenceValidation : Bool} {new buffer : List Token}
    (member : token ∈ (agree confidenceValidation new buffer).1) : token ∈ new := by
  induction new generalizing buffer with
  | nil => exact member
  | cons first rest ih =>
      have more : ∀ {behind : List Token},
          token ∈ first :: (agree confidenceValidation rest behind).1 → token ∈ first :: rest :=
        fun member => (List.mem_cons.mp member).elim (fun same => same ▸ List.mem_cons_self)
          fun later => List.mem_cons_of_mem _ (ih later)
      unfold agree at member
      split at member
      · exact more member
      · split at member
        · exact absurd member List.not_mem_nil
        · split at member
          · exact more member
          · exact absurd member List.not_mem_nil

theorem mem_of_mem_insert {hypothesis : HypothesisBuffer} {tokens : List Token} {offset : ℚ}
    (member : token ∈ (hypothesis.insert tokens offset).new) :
    ∃ heard ∈ tokens, token = heard.withOffset offset := by
  have among : token ∈ tokens.map fun token => token.withOffset offset := by
    unfold HypothesisBuffer.insert at member
    dsimp only at member
    split at member
    · exact absurd member List.not_mem_nil
    · split at member
      · exact List.mem_of_mem_filter (List.mem_of_mem_drop member)
      · exact List.mem_of_mem_filter member
  obtain ⟨heard, present, rfl⟩ := List.mem_map.mp among
  exact ⟨heard, present, rfl⟩

/-- A token that is committed is one of the transcription, with the offset of the buffer. -/
theorem mem_commit {res : Transcription} (member : token ∈ (online.commit asr res).1) :
    ∃ heard ∈ res.tokens, token = heard.withOffset online.bufferTimeOffset :=
  mem_of_mem_insert (mem_of_mem_agree member)

theorem committed_chunkIfLong (time : ℚ) :
    (online.chunkIfLong asr time).committed = online.committed := by
  unfold Processor.chunkIfLong
  split <;> rfl

theorem committed_trimSentence {committed : List Token} {trimmed : Processor}
    (done : online.trimSentence asr committed = some trimmed) :
    trimmed.committed = online.committed := by
  unfold Processor.trimSentence at done
  split at done
  · unfold Processor.chunkCompletedSentence at done
    split at done
    · cases done
      exact committed_chunkIfLong _
    · obtain ⟨sentences, -, rfl⟩ := Option.map_eq_some_iff.mp done
      split
      · rfl
      · exact committed_chunkIfLong _
  · cases done
    rfl

theorem committed_trimSegment (ends : List ℚ) :
    (online.trimSegment asr ends).committed = online.committed := by
  have chunked : (online.chunkCompletedSegment asr ends).committed = online.committed := by
    unfold Processor.chunkCompletedSegment
    split
    · exact committed_chunkIfLong _
    · split
      · split
        · rfl
        · exact committed_chunkIfLong _
      · exact committed_chunkIfLong _
  unfold Processor.trimSegment
  dsimp only
  rw [apply_ite Processor.committed, chunked, ite_self]

/-- A call empties what has been committed, where it commits nothing, or adds to it. -/
theorem committed_processIter (asr : Asr) (online : Processor) (res : Transcription) :
    (online.commit asr res).1 = [] ∧ (online.processIter asr (some res)).1.committed = [] ∨
      (online.processIter asr (some res)).1.committed =
        online.committed ++ (online.commit asr res).1 := by
  unfold Processor.processIter
  dsimp only
  split
  · rename_i frozen
    exact Or.inl ⟨frozen.1, rfl⟩
  · refine Or.inr ?_
    split
    · rfl
    · rename_i trimmed
      dsimp only
      rw [committed_trimSegment, committed_trimSentence trimmed]
      rfl

/-! ## The prompt -/

theorem lastWords_isPrefix (lengthCount : ℕ) (words : List (List Char)) :
    lastWords lengthCount words <+: words := by
  induction words generalizing lengthCount with
  | nil => exact List.prefix_rfl
  | cons word rest ih =>
      unfold lastWords
      split
      · exact (List.prefix_cons_inj word).mpr (ih _)
      · exact List.nil_prefix

/-- The prompt is a part of the committed text. -/
theorem prompt_isInfix : (online.prompt asr).1 <:+: textOf asr.sep online.committed := by
  refine PyText.intercalate_isInfix ?_
  have last := List.reverse_suffix.mpr
    (lastWords_isPrefix 0 (online.promptTokens.map Token.text).reverse)
  rw [List.reverse_reverse] at last
  have early : online.promptTokens.map Token.text <+: online.committed.map Token.text := by
    apply List.IsPrefix.map
    exact List.rdropWhile_prefix _ _
  exact last.isInfix.trans early.isInfix

theorem prompt_of_committed_eq_nil (uncommitted : online.committed = []) :
    (online.prompt asr).1 = [] := by
  have within : (online.prompt asr).1 <:+: textOf asr.sep online.committed := prompt_isInfix
  rw [uncommitted] at within
  exact List.infix_nil.mp within

end Panakoes.TranscriberStream.OnlineAsr
