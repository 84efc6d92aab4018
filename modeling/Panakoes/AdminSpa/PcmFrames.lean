import Mathlib.Algebra.Order.Field.Rat
import Mathlib.Algebra.Order.Floor.Div
import Mathlib.Data.Rat.Floor
import Mathlib.Tactic.Linarith
import Panakoes.Foundation.Framing

/-! # PCM frames

The worklet keeps what does not fill a frame until the next block, and the source of a file cuts all
samples at once. Both make the same frames of the same samples; the source of a file fills the last
one up with zeros, where the worklet waits for more.
-/

namespace Panakoes.AdminSpa.Pcm

/-- `FRAME_SAMPLES`. -/
@[irreducible] def frameSamples : ℕ := 3200

theorem frameSamples_pos : 0 < frameSamples := by
  unfold frameSamples
  decide

/-- `Math.round`: a half is rounded up. -/
def mathRound (value : ℚ) : ℤ := ⌊value + 1 / 2⌋

/-- The sample as an integer of 16 bits: it is clipped, scaled and rounded. -/
def intSample (sample : ℚ) : ℤ :=
  let s := if 1 < sample then 1 else if sample < -1 then -1 else sample
  if s < 0 then mathRound (s * 0x8000) else mathRound (s * 0x7fff)

/-- The bytes that `view.setInt16(_, value, true)` writes. -/
def setInt16 (value : ℤ) : List UInt8 :=
  let bits := (value % 0x10000).toNat
  [UInt8.ofNat (bits % 256), UInt8.ofNat (bits / 256)]

/-- What `view.getInt16(_, true)` reads of two bytes. -/
def getInt16 (low high : UInt8) : ℤ :=
  let bits := low.toNat + 256 * high.toNat
  if bits < 0x8000 then bits else bits - 0x10000

/-- The frame of the samples at the places of a frame. -/
def frameOf (sampleAt : ℕ → ℚ) : List UInt8 :=
  (List.range frameSamples).flatMap fun i => setInt16 (intSample (sampleAt i))

/-! ## The worklet -/

/-- `PcmFrameProcessor`, between two blocks. -/
structure PcmFrameProcessor where
  buffer : List ℚ
  writeIndex : ℕ
  sized : buffer.length = frameSamples
  unfilled : writeIndex < frameSamples

/-- The constructor. -/
def PcmFrameProcessor.new : PcmFrameProcessor :=
  ⟨List.replicate frameSamples 0, 0, List.length_replicate, frameSamples_pos⟩

/-- The loop that copies samples of a channel into the buffer. -/
def copySamples (buffer : List ℚ) (writeIndex : ℕ) (channel : List ℚ) (read toCopy : ℕ) : List ℚ :=
  (List.range toCopy).foldl
    (fun buffer i => buffer.set (writeIndex + i) (channel.getD (read + i) 0)) buffer

theorem length_copySamples (buffer : List ℚ) (writeIndex : ℕ) (channel : List ℚ)
    (read toCopy : ℕ) :
    (copySamples buffer writeIndex channel read toCopy).length = buffer.length := by
  unfold copySamples
  induction toCopy with
  | zero => rfl
  | succ toCopy ih => rw [List.range_succ, List.foldl_append, List.foldl_cons, List.foldl_nil,
      List.length_set, ih]

/-- The loop of `process` over a channel, with the frames that it posts. -/
def PcmFrameProcessor.processChannel (channel : List ℚ) (processor : PcmFrameProcessor)
    (read : ℕ) : PcmFrameProcessor × List (List UInt8) :=
  if _more : read < channel.length then
    let room := frameSamples - processor.writeIndex
    let toCopy := min room (channel.length - read)
    let buffer := copySamples processor.buffer processor.writeIndex channel read toCopy
    have sized : buffer.length = frameSamples :=
      (length_copySamples _ _ _ _ _).trans processor.sized
    if filled : frameSamples ≤ processor.writeIndex + toCopy then
      let (after, posted) :=
        processChannel channel ⟨buffer, 0, sized, frameSamples_pos⟩ (read + toCopy)
      (after, frameOf (fun i => buffer.getD i 0) :: posted)
    else
      processChannel channel ⟨buffer, processor.writeIndex + toCopy, sized, not_le.mp filled⟩
        (read + toCopy)
  else (processor, [])
termination_by channel.length - read
decreasing_by
  all_goals
    have := processor.unfilled
    omega

/-- The samples that `process` reads: those of the first channel of the first input. -/
def channelOf (inputs : List (List (List ℚ))) : List ℚ := (inputs.head?.bind List.head?).getD []

/-- `process`. -/
def PcmFrameProcessor.process (processor : PcmFrameProcessor) (inputs : List (List (List ℚ))) :
    PcmFrameProcessor × List (List UInt8) :=
  match inputs.head? with
  | none => (processor, [])
  | some input =>
      match input.head? with
      | none => (processor, [])
      | some channel => processor.processChannel channel 0

/-- The calls of `process` for the blocks of a run. -/
def PcmFrameProcessor.run (processor : PcmFrameProcessor) :
    List (List (List (List ℚ))) → PcmFrameProcessor × List (List UInt8)
  | [] => (processor, [])
  | inputs :: later =>
      let (next, posted) := processor.process inputs
      let (after, more) := next.run later
      (after, posted ++ more)

/-! ## The source of a file -/

/-- `floatToS16leFrames`. -/
def floatToS16leFrames (samples : List ℚ) : List (List UInt8) :=
  let frameCount := samples.length ⌈/⌉ frameSamples
  (List.range frameCount).map fun f =>
    let base := f * frameSamples
    frameOf fun i => if base + i < samples.length then samples.getD (base + i) 0 else 0

/-- The values of the samples of a frame. -/
def decode : List UInt8 → List ℤ
  | low :: high :: rest => getInt16 low high :: decode rest
  | _ => []

/-! ## The conversion of a sample -/

/-- A sample becomes an integer of 16 bits. -/
theorem intSample_mem (sample : ℚ) : -0x8000 ≤ intSample sample ∧ intSample sample ≤ 0x7fff := by
  have clipped : ∀ s : ℚ, -1 ≤ s → s ≤ 1 →
      -0x8000 ≤ (if s < 0 then mathRound (s * 0x8000) else mathRound (s * 0x7fff)) ∧
        (if s < 0 then mathRound (s * 0x8000) else mathRound (s * 0x7fff)) ≤ 0x7fff := by
    intro s low high
    unfold mathRound
    split
    · constructor
      · rw [Int.le_floor]
        push_cast
        linarith
      · rw [← Int.lt_add_one_iff, Int.floor_lt]
        push_cast
        linarith
    · constructor
      · rw [Int.le_floor]
        push_cast
        linarith
      · rw [← Int.lt_add_one_iff, Int.floor_lt]
        push_cast
        linarith
  unfold intSample
  dsimp only
  refine clipped _ ?_ ?_
  · split
    · norm_num
    · split
      · exact le_refl _
      · linarith
  · split
    · exact le_refl _
    · split
      · norm_num
      · linarith

/-- What is written of an integer of 16 bits is read as the integer. -/
theorem getInt16_setInt16 {value : ℤ} (low : -0x8000 ≤ value) (high : value ≤ 0x7fff) :
    decode (setInt16 value) = [value] := by
  have bits : (UInt8.ofNat ((value % 0x10000).toNat % 256)).toNat +
      256 * (UInt8.ofNat ((value % 0x10000).toNat / 256)).toNat = (value % 0x10000).toNat := by
    rw [UInt8.toNat_ofNat', UInt8.toNat_ofNat']
    omega
  have read : getInt16 (UInt8.ofNat ((value % 0x10000).toNat % 256))
      (UInt8.ofNat ((value % 0x10000).toNat / 256)) = value := by
    unfold getInt16
    rw [bits]
    dsimp only
    split <;> omega
  unfold setInt16
  dsimp only
  rw [decode, read]
  rfl

theorem decode_append (first rest : List UInt8) (even : 2 ∣ first.length) :
    decode (first ++ rest) = decode first ++ decode rest := by
  fun_induction decode first with
  | case1 low high later ih =>
      rw [List.cons_append, List.cons_append, decode, ih, List.cons_append]
      rw [List.length_cons, List.length_cons] at even
      omega
  | case2 first short =>
      cases first with
      | nil => rfl
      | cons low later =>
          cases later with
          | nil =>
              rw [List.length_singleton] at even
              omega
          | cons high later => exact absurd rfl (short low high later)

/-- The values of a frame. -/
theorem decode_frameOf (sampleAt : ℕ → ℚ) :
    decode (frameOf sampleAt) =
      (List.range frameSamples).map fun i => intSample (sampleAt i) := by
  unfold frameOf
  induction List.range frameSamples with
  | nil => rfl
  | cons i later ih =>
      have even : 2 ∣ (setInt16 (intSample (sampleAt i))).length := by
        rw [setInt16]
        exact Nat.dvd_refl 2
      obtain ⟨low, high⟩ := intSample_mem (sampleAt i)
      rw [List.flatMap_cons, decode_append _ _ even, getInt16_setInt16 low high, ih]
      rfl

/-! ## The frames of the worklet -/

/-- The samples that are in the buffer. -/
def PcmFrameProcessor.pending (processor : PcmFrameProcessor) : List ℚ :=
  processor.buffer.take processor.writeIndex

/-- The frame of a list of samples. -/
def frameOfList (samples : List ℚ) : List UInt8 := frameOf fun i => samples.getD i 0

theorem PcmFrameProcessor.length_pending (processor : PcmFrameProcessor) :
    processor.pending.length = processor.writeIndex := by
  rw [pending, List.length_take, processor.sized]
  exact min_eq_left processor.unfilled.le

/-- What is copied stands behind what has been in the buffer. -/
theorem take_copySamples {buffer channel : List ℚ} {writeIndex read toCopy : ℕ}
    (room : writeIndex + toCopy ≤ buffer.length) (held : read + toCopy ≤ channel.length) :
    (copySamples buffer writeIndex channel read toCopy).take (writeIndex + toCopy) =
      buffer.take writeIndex ++ (channel.drop read).take toCopy := by
  induction toCopy with
  | zero =>
      rw [Nat.add_zero, List.take_zero, List.append_nil]
      rfl
  | succ toCopy ih =>
      have copied : copySamples buffer writeIndex channel read (toCopy + 1) =
          (copySamples buffer writeIndex channel read toCopy).set (writeIndex + toCopy)
            (channel.getD (read + toCopy) 0) := by
        unfold copySamples
        rw [List.range_succ, List.foldl_append, List.foldl_cons, List.foldl_nil]
      have within : writeIndex + toCopy <
          (copySamples buffer writeIndex channel read toCopy).length := by
        rw [length_copySamples]
        omega
      have present : read + toCopy < channel.length := by omega
      rw [copied, ← Nat.add_assoc, List.take_add_one, List.getElem?_set_self within,
        List.take_set_of_le (le_refl _), ih (by omega) (by omega), List.take_add_one,
        List.getElem?_drop, List.getD_eq_getElem?_getD, List.getElem?_eq_getElem present,
        List.append_assoc]
      rfl

/-- A frame does not depend on what is behind it. -/
theorem frameOfList_take (samples : List ℚ) :
    frameOfList (samples.take frameSamples) = frameOfList samples := by
  unfold frameOfList frameOf
  refine List.flatMap_congr fun i member => ?_
  dsimp only
  rw [List.getD_eq_getElem?_getD, List.getD_eq_getElem?_getD,
    List.getElem?_take_of_lt (List.mem_range.mp member)]

/-- The loop over a channel posts the full frames of what is pending and of the rest of the channel,
and leaves what is behind them. -/
theorem processChannel_spec (channel : List ℚ) (processor : PcmFrameProcessor) (read : ℕ) :
    (processor.processChannel channel read).2 =
        (Framing.full frameSamples (processor.pending ++ channel.drop read)).map frameOfList ∧
      (processor.processChannel channel read).1.pending =
        Framing.rest frameSamples (processor.pending ++ channel.drop read) := by
  have split : ∀ (items : List ℚ) (read toCopy : ℕ), items ++ channel.drop read =
      items ++ (channel.drop read).take toCopy ++ channel.drop (read + toCopy) := by
    intro items read toCopy
    rw [List.append_assoc, ← List.drop_drop, List.take_append_drop]
  fun_induction PcmFrameProcessor.processChannel channel processor read with
  | case1 processor read more room toCopy buffer sized filled after posted looped ih =>
      have unfilled := processor.unfilled
      have within : processor.writeIndex + toCopy = frameSamples := by omega
      have copied : buffer = processor.pending ++ (channel.drop read).take toCopy := by
        rw [PcmFrameProcessor.pending, ← take_copySamples (by rw [processor.sized]; omega)
          (by omega), within, List.take_of_length_le sized.le]
      have framed : (processor.pending ++ (channel.drop read).take toCopy).length =
          frameSamples := copied ▸ sized
      rw [split processor.pending read toCopy, Framing.full_append frameSamples_pos framed,
        Framing.rest_append frameSamples_pos framed, List.map_cons]
      rw [looped] at ih
      exact ⟨congrArg₂ List.cons (congrArg frameOfList copied) ih.1, ih.2⟩
  | case2 processor read more room toCopy buffer sized unfilled ih =>
      have copied : buffer.take (processor.writeIndex + toCopy) =
          processor.pending ++ (channel.drop read).take toCopy :=
        take_copySamples (by rw [processor.sized]; omega) (by omega)
      rw [split processor.pending read toCopy, ← copied]
      exact ih
  | case3 processor read done =>
      have short : (processor.pending ++ channel.drop read).length < frameSamples := by
        rw [List.drop_of_length_le (not_lt.mp done), List.append_nil, processor.length_pending]
        exact processor.unfilled
      rw [Framing.full_of_lt short, Framing.rest_of_lt short, List.drop_of_length_le (not_lt.mp done),
        List.append_nil]
      exact ⟨rfl, rfl⟩

theorem process_spec (processor : PcmFrameProcessor) (inputs : List (List (List ℚ))) :
    (processor.process inputs).2 =
        (Framing.full frameSamples (processor.pending ++ channelOf inputs)).map frameOfList ∧
      (processor.process inputs).1.pending =
        Framing.rest frameSamples (processor.pending ++ channelOf inputs) := by
  have idle : ([] : List (List UInt8)) =
      (Framing.full frameSamples (processor.pending ++ [])).map frameOfList ∧
        processor.pending = Framing.rest frameSamples (processor.pending ++ []) := by
    have short : (processor.pending ++ []).length < frameSamples := by
      rw [List.append_nil, processor.length_pending]
      exact processor.unfilled
    rw [Framing.full_of_lt short, Framing.rest_of_lt short, List.append_nil]
    exact ⟨rfl, rfl⟩
  unfold PcmFrameProcessor.process channelOf
  cases inputs.head? with
  | none => exact idle
  | some input =>
      dsimp only [Option.bind_some]
      cases input.head? with
      | none => exact idle
      | some channel => exact processChannel_spec channel processor 0

/-- The blocks of a run are framed like one list. -/
theorem run_spec (processor : PcmFrameProcessor) (blocks : List (List (List (List ℚ)))) :
    (processor.run blocks).2 = (Framing.full frameSamples
        (processor.pending ++ blocks.flatMap channelOf)).map frameOfList ∧
      (processor.run blocks).1.pending =
        Framing.rest frameSamples (processor.pending ++ blocks.flatMap channelOf) := by
  induction blocks generalizing processor with
  | nil => exact process_spec processor []
  | cons inputs later ih =>
      obtain ⟨posted, pending⟩ := process_spec processor inputs
      obtain ⟨more, left⟩ := ih (processor.process inputs).1
      rw [pending] at more left
      rw [List.flatMap_cons, ← List.append_assoc]
      constructor
      · rw [Framing.full_extend frameSamples_pos, List.map_append, ← posted, ← more]
        rfl
      · rw [Framing.rest_extend frameSamples_pos, ← left]
        rfl

/-! ## The frames of a file -/

/-- The frames of a file are the full frames of its samples, and one for the rest, if there is
one. -/
theorem floatToS16leFrames_eq (samples : List ℚ) :
    floatToS16leFrames samples = (Framing.full frameSamples samples).map frameOfList ++
      if Framing.rest frameSamples samples = [] then []
      else [frameOfList (Framing.rest frameSamples samples)] := by
  have frames : ∀ count, ((List.range count).map fun f => frameOf fun i =>
      if f * frameSamples + i < samples.length then samples.getD (f * frameSamples + i) 0 else 0) =
        (List.range count).map fun f => frameOfList (samples.drop (f * frameSamples)) := by
    intro count
    refine List.map_congr_left fun f _ => congrArg frameOf (funext fun i => ?_)
    rw [List.getD_eq_getElem?_getD, List.getD_eq_getElem?_getD, List.getElem?_drop]
    split
    · rfl
    · rename_i behind
      rw [List.getElem?_eq_none (not_lt.mp behind)]
      rfl
  have full : (Framing.full frameSamples samples).map frameOfList =
      (List.range (samples.length / frameSamples)).map fun f =>
        frameOfList (samples.drop (f * frameSamples)) := by
    rw [Framing.full, List.map_map]
    exact List.map_congr_left fun f _ => frameOfList_take _
  unfold floatToS16leFrames
  dsimp only
  rw [frames, full]
  by_cases none : Framing.rest frameSamples samples = []
  · have count : samples.length ⌈/⌉ frameSamples = samples.length / frameSamples := by
      rw [Framing.rest, List.drop_eq_nil_iff] at none
      rw [Nat.ceilDiv_eq_add_pred_div]
      unfold frameSamples at none ⊢
      omega
    rw [if_pos none, count, List.append_nil]
  · have count : samples.length ⌈/⌉ frameSamples = samples.length / frameSamples + 1 := by
      rw [Framing.rest, List.drop_eq_nil_iff] at none
      rw [Nat.ceilDiv_eq_add_pred_div]
      unfold frameSamples at none ⊢
      omega
    rw [if_neg none, count, List.range_succ, List.map_append]
    rfl

theorem intSample_zero : intSample 0 = 0 := by
  unfold intSample mathRound
  norm_num

/-- The values of a frame: those of its samples, and then zeros. -/
theorem decode_frameOfList {samples : List ℚ} (fits : samples.length ≤ frameSamples) :
    decode (frameOfList samples) =
      samples.map intSample ++ List.replicate (frameSamples - samples.length) 0 := by
  have present : (List.range samples.length).map (fun i => intSample (samples.getD i 0)) =
      samples.map intSample := by
    refine List.ext_getElem (by simp) fun i first second => ?_
    rw [List.length_map, List.length_range] at first
    simp [List.getD_eq_getElem?_getD, List.getElem?_eq_getElem first]
  have padded : ∀ count, (List.range count).map
      (fun i => intSample (samples.getD (samples.length + i) 0)) = List.replicate count 0 := by
    intro count
    refine List.eq_replicate_iff.mpr ⟨by simp, fun value member => ?_⟩
    obtain ⟨i, -, rfl⟩ := List.mem_map.mp member
    rw [List.getD_eq_getElem?_getD, List.getElem?_eq_none (Nat.le_add_right _ _)]
    exact intSample_zero
  have range : List.range frameSamples = List.range samples.length ++
      (List.range (frameSamples - samples.length)).map (samples.length + ·) := by
    rw [← List.range_add, Nat.add_sub_cancel' fits]
  rw [frameOfList, decode_frameOf, range, List.map_append, List.map_map, present]
  exact congrArg _ (padded _)

/-! ## The two sources -/

/-- The frames of the worklet are the full frames of the file; the file has at most one more, of the
rest of the samples and zeros. All values are integers of 16 bits, and those of the file are the
samples in order and then zeros. -/
structure FramedAlike (samples : List ℚ) (posted frames : List (List UInt8)) : Prop where
  full : posted = frames.take (samples.length / frameSamples)
  more : frames.length ≤ samples.length / frameSamples + 1
  padded : ∀ frame ∈ frames.drop (samples.length / frameSamples),
    decode frame = (Framing.rest frameSamples samples).map intSample ++
      List.replicate (frameSamples - (Framing.rest frameSamples samples).length) 0
  ranged : ∀ frame ∈ posted ++ frames, (decode frame).length = frameSamples ∧
    ∀ value ∈ decode frame, -0x8000 ≤ value ∧ value ≤ 0x7fff
  values : ∃ padding < frameSamples,
    frames.flatMap decode = samples.map intSample ++ List.replicate padding 0

/-- **The worklet and a file frame alike.** For all samples and all blocks that they come in, the
worklet posts the full frames of the file. -/
theorem framed_alike (blocks : List (List (List (List ℚ)))) :
    FramedAlike (blocks.flatMap channelOf) (PcmFrameProcessor.new.run blocks).2
      (floatToS16leFrames (blocks.flatMap channelOf)) := by
  have posted := (run_spec PcmFrameProcessor.new blocks).1
  have empty : PcmFrameProcessor.new.pending = [] := List.take_zero
  rw [empty, List.nil_append] at posted
  rw [posted]
  generalize blocks.flatMap channelOf = samples
  have sized := @Framing.length_of_mem_full _ _ samples frameSamples_pos
  have short := @Framing.length_rest_lt _ _ samples frameSamples_pos
  have count : ((Framing.full frameSamples samples).map frameOfList).length =
      samples.length / frameSamples := by
    rw [List.length_map, Framing.full, List.length_map, List.length_range]
  have valued : ((Framing.full frameSamples samples).map frameOfList).flatMap decode =
      (Framing.full frameSamples samples).flatten.map intSample := by
    rw [List.flatMap_map, List.map_flatten, ← List.flatMap_def]
    refine List.flatMap_congr fun frame member => ?_
    rw [decode_frameOfList (sized frame member).le, sized frame member, Nat.sub_self,
      List.replicate_zero, List.append_nil]
  have whole := @Framing.flatten_full_append_rest _ _ samples frameSamples_pos
  have made : ∀ items, (decode (frameOfList items)).length = frameSamples ∧
      ∀ value ∈ decode (frameOfList items), -0x8000 ≤ value ∧ value ≤ 0x7fff := by
    intro items
    rw [frameOfList, decode_frameOf, List.length_map, List.length_range]
    refine ⟨rfl, fun value member => ?_⟩
    obtain ⟨i, -, rfl⟩ := List.mem_map.mp member
    exact intSample_mem _
  have fromFull : ∀ frame ∈ (Framing.full frameSamples samples).map frameOfList,
      ∃ items, frameOfList items = frame := by
    intro frame member
    obtain ⟨items, -, same⟩ := List.mem_map.mp member
    exact ⟨items, same⟩
  rw [floatToS16leFrames_eq samples]
  by_cases none : Framing.rest frameSamples samples = []
  · rw [if_pos none, List.append_nil]
    refine ⟨?_, ?_, ?_, ?_, 0, frameSamples_pos, ?_⟩
    · rw [← count, List.take_length]
    · rw [count]
      exact Nat.le_succ _
    · rw [← count, List.drop_length]
      exact fun frame member => absurd member List.not_mem_nil
    · intro frame member
      obtain ⟨items, rfl⟩ := fromFull frame ((List.mem_append.mp member).elim id id)
      exact made items
    · rw [none, List.append_nil] at whole
      rw [valued, whole, List.replicate_zero, List.append_nil]
  · rw [if_neg none]
    have some : 0 < (Framing.rest frameSamples samples).length := List.length_pos_iff.mpr none
    refine ⟨?_, ?_, ?_, ?_, frameSamples - (Framing.rest frameSamples samples).length, ?_, ?_⟩
    · rw [← count, List.take_left]
    · rw [List.length_append, count]
      rfl
    · rw [← count, List.drop_left]
      intro frame member
      cases List.mem_singleton.mp member
      exact decode_frameOfList short.le
    · intro frame member
      have frame : ∃ items, frameOfList items = frame := by
        rcases List.mem_append.mp member with posted | framed
        · exact fromFull frame posted
        · rcases List.mem_append.mp framed with full | last
          · exact fromFull frame full
          · exact ⟨_, (List.mem_singleton.mp last).symm⟩
      obtain ⟨items, rfl⟩ := frame
      exact made items
    · omega
    · rw [List.flatMap_append, valued, List.flatMap_singleton, decode_frameOfList short.le,
        ← List.append_assoc, ← List.map_append, whole]

end Panakoes.AdminSpa.Pcm
