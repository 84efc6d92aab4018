import Panakoes.AdminSpa.StreamingSession
import Panakoes.TranscriberStream.Session

/-! # The final chunks on their way to the page

The transcriber packs the last tokens into `final-chunk` messages, and the
session puts the tokens of all chunks together when `ended` arrives. It joins
them as if they were texts. The transcriber sends dictionaries, and each of them
is written `[object Object]`.
-/

namespace Panakoes.AdminSpa

open PyJson (get)
open TranscriberStream (AsrToken chunkTokensForWs wsMaxBytes flatten_chunkTokensForWs
  finalChunkMessage finalChunkMessages endedMessage)

variable {π : Type*} {numberText : ℚ → String} {state : State π} {tokens : List AsrToken}
  {dumps : PyJson → String}

/-- What `join` makes of an object. -/
def objectText : String := "[object Object]"

/-- The session after messages have arrived. -/
def State.receive (numberText : ℚ → String) (state : State π) (messages : List PyJson) : State π :=
  messages.foldl (fun state message => state.handleMessage numberText (some message) false) state

/-- What the texts of the tokens would add to the final segments. -/
def spokenSegments (tokens : List AsrToken) : List String :=
  if tokens = [] then [] else [" ".intercalate (tokens.map AsrToken.text)]

/-! ## The text of dictionaries -/

theorem joinTexts_entries (numberText : ℚ → String) (tokens : List AsrToken) :
    joinTexts numberText (tokens.map AsrToken.entry) =
      List.replicate tokens.length objectText := by
  induction tokens with
  | nil => rfl
  | cons token rest ih =>
      rw [List.map_cons, joinTexts, ih]
      rfl

/-! ## The buffer -/

/-- A chunk is found under its number. -/
theorem lookup_setChunk (buffer : List (ℚ × List PyJson)) (seq key : ℚ) (tokens : List PyJson) :
    (setChunk buffer seq tokens).lookup key =
      if key = seq then some tokens else buffer.lookup key :=
  PyJson.lookup_put

/-- The buffer holds nothing but chunks of the list, under their numbers. -/
def Faithful (chunks : List (List PyJson)) (buffer : List (ℚ × List PyJson)) : Prop :=
  ∀ (index : ℕ) (tokens : List PyJson), buffer.lookup (index : ℚ) = some tokens →
    chunks[index]? = some tokens

/-- When every chunk is in the buffer, their tokens come out in order. -/
theorem chunkTokens_eq {chunks : List (List PyJson)} {buffer : List (ℚ × List PyJson)}
    (faithful : Faithful chunks buffer)
    (full : ∀ index < chunks.length, (buffer.lookup (index : ℚ)).isSome) :
    chunkTokens buffer ((chunks.length : ℤ) : ℚ) = chunks.flatten := by
  have found : ∀ index ∈ List.range chunks.length,
      (buffer.lookup (index : ℚ)).getD [] = (chunks[index]?).getD [] := by
    intro index member
    obtain ⟨tokens, held⟩ := Option.isSome_iff_exists.mp (full index (List.mem_range.mp member))
    rw [held, faithful index tokens held]
  have count : (((chunks.length : ℤ) : ℚ).ceil).toNat = chunks.length := by
    rw [Rat.ceil_intCast, Int.toNat_natCast]
  unfold chunkTokens
  have inOrder : (List.range chunks.length).map (fun index => (chunks[index]?).getD []) =
      chunks := by
    refine List.ext_getElem (by simp) fun index _ inside => ?_
    simp [inside]
  rw [count, List.flatMap_congr found, List.flatMap_def, inOrder]

/-! ## Arrivals -/

/-- A `final-chunk` goes into the buffer. -/
theorem handleMessage_finalChunk (numberText : ℚ → String) (state : State π) (total : ℕ) (chunk : List PyJson × ℕ) :
    ∃ stall, state.handleMessage numberText (some (finalChunkMessage total chunk)) false =
      { state with
        spawnStallTimer := stall
        finalChunkBuffer := setChunk state.finalChunkBuffer (chunk.2 : ℤ) chunk.1
        expectedFinalChunks := some (total : ℤ) } := by
  obtain ⟨stall, reset⟩ := state.resetStallWatchdog_eq
  have numbered : (0 : ℚ) ≤ ((chunk.2 : ℤ) : ℚ) := Rat.intCast_nonneg.mpr (Int.natCast_nonneg _)
  refine ⟨stall, ?_⟩
  unfold State.handleMessage finalChunkMessage
  rw [reset]
  exact if_pos numbered

/-- `ended` puts the chunks together. -/
theorem handleMessage_ended (reason : String) (expectedChunks : ℕ) (audioUpto : ℚ) :
    (state.handleMessage numberText (some (endedMessage reason expectedChunks audioUpto))
      false).finalSegments = (state.assembleFinalChunks numberText).finalSegments := by
  obtain ⟨stall, reset⟩ := state.resetStallWatchdog_eq
  have assembled : (state.resetStallWatchdog.assembleFinalChunks numberText).finalSegments =
      (state.assembleFinalChunks numberText).finalSegments := by
    rw [reset]
    unfold State.assembleFinalChunks
    dsimp only
    split
    · rfl
    · split <;> rfl
  obtain ⟨_, ended⟩ :=
    (state.resetStallWatchdog.assembleFinalChunks numberText).setStatus_eq .ended
  have handled : state.handleMessage numberText
      (some (endedMessage reason expectedChunks audioUpto)) false =
        (state.resetStallWatchdog.assembleFinalChunks numberText).setStatus .ended := rfl
  rw [handled, ended]
  exact assembled

/-- What the session has after some of the messages about the chunks. -/
structure Received (chunks : List (List PyJson)) (arrived : List PyJson)
    (before after : State π) : Prop where
  finalSegments : after.finalSegments = before.finalSegments
  faithful : Faithful chunks after.finalChunkBuffer
  kept : ∀ key, (before.finalChunkBuffer.lookup key).isSome →
    (after.finalChunkBuffer.lookup key).isSome
  stored : ∀ chunk : List PyJson × ℕ, finalChunkMessage chunks.length chunk ∈ arrived →
    (after.finalChunkBuffer.lookup (chunk.2 : ℚ)).isSome
  expected : before.expectedFinalChunks = some ((chunks.length : ℤ) : ℚ) ∨ arrived ≠ [] →
    after.expectedFinalChunks = some ((chunks.length : ℤ) : ℚ)

theorem finalChunkMessage_seq {total : ℕ} {chunk other : List PyJson × ℕ}
    (same : finalChunkMessage total chunk = finalChunkMessage total other) : chunk.2 = other.2 := by
  simp only [finalChunkMessage, PyJson.dict.injEq, List.cons.injEq, Prod.mk.injEq,
    PyJson.int.injEq, Int.natCast_inj] at same
  exact same.2.1.2

/-- The chunks end up in the buffer, in whatever order they arrive. -/
theorem received_receive {chunks : List (List PyJson)} (arrived : List PyJson)
    (sent : ∀ message ∈ arrived, message ∈ chunks.zipIdx.map (finalChunkMessage chunks.length))
    (faithful : Faithful chunks state.finalChunkBuffer) :
    Received chunks arrived state (state.receive numberText arrived) := by
  induction arrived generalizing state with
  | nil =>
      refine ⟨rfl, faithful, fun _ held => held, ?_, ?_⟩
      · rintro _ ⟨⟩
      · rintro (known | absent)
        · exact known
        · exact absurd rfl absent
  | cons message rest ih =>
      obtain ⟨chunk, place, rfl⟩ := List.mem_map.mp (sent message (List.mem_cons_self ..))
      obtain ⟨stall, handled⟩ :=
        handleMessage_finalChunk numberText state chunks.length chunk
      have numbered : ((chunk.2 : ℤ) : ℚ) = (chunk.2 : ℚ) := Rat.intCast_natCast _
      let next := state.handleMessage numberText (some (finalChunkMessage chunks.length chunk)) false
      have lookup_next : ∀ key, next.finalChunkBuffer.lookup key =
          if key = (chunk.2 : ℚ) then some chunk.1 else state.finalChunkBuffer.lookup key := by
        intro key
        rw [show next = _ from handled, ← numbered]
        exact lookup_setChunk _ _ _ _
      have faithful_next : Faithful chunks next.finalChunkBuffer := by
        intro index tokens held
        rw [lookup_next] at held
        split at held
        · rename_i same
          obtain rfl := Rat.natCast_inj.mp same
          cases held
          exact List.mem_zipIdx_iff_getElem?.mp place
        · exact faithful index tokens held
      have further : Received chunks rest next (next.receive numberText rest) :=
        ih (fun other member => sent other (List.mem_cons_of_mem _ member)) faithful_next
      refine ⟨?_, further.faithful, ?_, ?_, fun _ => further.expected (Or.inl ?_)⟩
      · rw [State.receive, List.foldl_cons]
        refine further.finalSegments.trans ?_
        rw [show next = _ from handled]
      · intro key held
        refine further.kept key ?_
        rw [lookup_next]
        split
        · rfl
        · exact held
      · intro other member
        rcases List.mem_cons.mp member with same | later
        · refine further.kept _ ?_
          rw [lookup_next, finalChunkMessage_seq same, if_pos rfl]
          rfl
        · exact further.stored other later
      · rw [show next = _ from handled]

/-- A session that has all chunks puts their tokens together. -/
theorem assembleFinalChunks_full (numberText : ℚ → String) {chunks : List (List PyJson)} (some_token : chunks.flatten ≠ [])
    (faithful : Faithful chunks state.finalChunkBuffer)
    (full : ∀ index < chunks.length, (state.finalChunkBuffer.lookup (index : ℚ)).isSome)
    (expected : state.expectedFinalChunks = some ((chunks.length : ℤ) : ℚ)) :
    (state.assembleFinalChunks numberText).finalSegments =
      state.finalSegments ++ [joinTokens numberText chunks.flatten] := by
  have buffered : state.finalChunkBuffer ≠ [] := by
    intro empty
    have first : 0 < chunks.length := by
      rw [List.length_pos_iff]
      rintro rfl
      exact some_token rfl
    have held := full 0 first
    rw [empty] at held
    cases held
  unfold State.assembleFinalChunks
  rw [expected]
  dsimp only
  rw [if_neg buffered, chunkTokens_eq faithful full, if_neg some_token]

/-- **Arrival.** Whatever the order the chunks arrive in, what `ended` adds is a
text of as many objects as there are tokens. -/
theorem receive_finalChunks (fresh : state.finalChunkBuffer = [])
    (unexpected : state.expectedFinalChunks = none) {arrived : List PyJson}
    (perm : arrived.Perm (finalChunkMessages dumps tokens)) (reason : String)
    (expectedChunks : ℕ) (audioUpto : ℚ) :
    (state.receive numberText
      (arrived ++ [endedMessage reason expectedChunks audioUpto])).finalSegments =
      state.finalSegments ++ if tokens = [] then [] else
        [" ".intercalate (List.replicate tokens.length objectText)] := by
  let chunks := chunkTokensForWs dumps tokens wsMaxBytes
  have flattened : chunks.flatten = tokens.map AsrToken.entry := flatten_chunkTokensForWs
  have sent : finalChunkMessages dumps tokens =
      chunks.zipIdx.map (finalChunkMessage chunks.length) := rfl
  rw [sent] at perm
  have faithful : Faithful chunks state.finalChunkBuffer := by
    intro index tokens held
    rw [fresh] at held
    cases held
  have received : Received chunks arrived state (state.receive numberText arrived) :=
    received_receive arrived (fun message member => perm.mem_iff.mp member) faithful
  rw [State.receive, List.foldl_append, List.foldl_cons, List.foldl_nil, handleMessage_ended]
  by_cases silent : tokens = []
  · have nothing : arrived = [] := by
      subst silent
      exact List.perm_nil.mp perm
    rw [if_pos silent, List.append_nil, nothing, List.foldl_nil, State.assembleFinalChunks,
      unexpected]
  · have some_token : chunks.flatten ≠ [] := by
      rw [flattened]
      exact fun none_left => silent (List.map_eq_nil_iff.mp none_left)
    have arrives : arrived ≠ [] := by
      rintro rfl
      have none_sent := List.map_eq_nil_iff.mp (List.nil_perm.mp perm)
      rw [List.zipIdx_eq_nil_iff] at none_sent
      rw [none_sent] at some_token
      exact some_token rfl
    have full : ∀ index < chunks.length,
        ((state.receive numberText arrived).finalChunkBuffer.lookup (index : ℚ)).isSome := by
      intro index inside
      refine received.stored (chunks[index], index) (perm.mem_iff.mpr (List.mem_map_of_mem ?_))
      exact List.mk_mem_zipIdx_iff_getElem?.mpr (List.getElem?_eq_getElem inside)
    have assembled := assembleFinalChunks_full numberText some_token
      received.faithful full (received.expected (Or.inr arrives))
    rw [if_neg silent]
    refine assembled.trans ?_
    rw [received.finalSegments, flattened, joinTokens, joinTexts_entries]

/-- **Round trip.** What the session adds are the texts of all tokens exactly if
these texts, joined, read `[object Object]` for each token. -/
theorem final_chunks_spoken_iff (fresh : state.finalChunkBuffer = [])
    (unexpected : state.expectedFinalChunks = none) {arrived : List PyJson}
    (perm : arrived.Perm (finalChunkMessages dumps tokens)) (reason : String)
    (expectedChunks : ℕ) (audioUpto : ℚ) :
    (state.receive numberText
        (arrived ++ [endedMessage reason expectedChunks audioUpto])).finalSegments =
        state.finalSegments ++ spokenSegments tokens ↔
      " ".intercalate (tokens.map AsrToken.text) =
        " ".intercalate (List.replicate tokens.length objectText) := by
  rw [receive_finalChunks fresh unexpected perm, List.append_cancel_left_eq, spokenSegments]
  by_cases silent : tokens = []
  · simp [silent]
  · rw [if_neg silent, if_neg silent, List.singleton_inj]
    exact eq_comm

/-- A word without times. -/
def sampleWord (text : String) : AsrToken := ⟨text, none, none, none⟩

/-- The only word that comes through is what an object is written as. -/
theorem final_chunks_spoken_object :
    ((State.initial : State ℕ).receive sampleNumberText
      (finalChunkMessages (fun _ => "") [sampleWord objectText] ++
        [endedMessage "disconnected" 1 0])).finalSegments = [objectText] :=
  (final_chunks_spoken_iff rfl rfl (List.Perm.refl _) "disconnected" 1 0).mpr rfl

/-- A word does not come through. -/
theorem final_chunks_not_spoken :
    ¬ ∀ (numberText : ℚ → String) (state : State ℕ) (dumps : PyJson → String)
      (tokens : List AsrToken) (arrived : List PyJson) (reason : String) (expectedChunks : ℕ)
      (audioUpto : ℚ),
      state.finalChunkBuffer = [] → state.expectedFinalChunks = none →
      arrived.Perm (finalChunkMessages dumps tokens) →
      (state.receive numberText
        (arrived ++ [endedMessage reason expectedChunks audioUpto])).finalSegments =
        state.finalSegments ++ spokenSegments tokens := by
  intro always
  have spoken := always sampleNumberText State.initial (fun _ => "") [sampleWord "hello"] _
    "disconnected" 1 0 rfl rfl (List.Perm.refl _)
  rw [receive_finalChunks rfl rfl (List.Perm.refl _)] at spoken
  exact absurd spoken (by decide +kernel)

end Panakoes.AdminSpa
