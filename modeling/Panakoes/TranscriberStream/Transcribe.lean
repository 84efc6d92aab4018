import Mathlib.Algebra.Order.BigOperators.Group.List
import Panakoes.Foundation.JsonSize
import Panakoes.Foundation.PyJson

/-! # Transcript tokens and their chunks

The tokens that leave the container, and `chunk_tokens_for_ws`, which packs them
into buckets for the frames of a WebSocket. `dumps` is
`json.dumps(.., ensure_ascii=False)`; only the length of its text is used.
-/

namespace Panakoes.TranscriberStream

/-- The fields of an `ASRToken` that leave the container. Its times and its
probability may be absent. -/
structure AsrToken where
  text : String
  start : Option ℚ
  end_ : Option ℚ
  probability : Option ℚ
  deriving DecidableEq, Repr

/-- A number, or `None`. -/
def optionalNumber : Option ℚ → PyJson
  | none => .none
  | some value => .float (some value)

/-- The dictionary made of a token for S3 and for a `final-chunk`. -/
def AsrToken.entry (token : AsrToken) : PyJson :=
  .dict [("text", .str token.text), ("start", optionalNumber token.start),
    ("end", optionalNumber token.end_), ("probability", optionalNumber token.probability)]

/-- What the loop of `chunk_tokens_for_ws` keeps. -/
structure Buckets where
  buckets : List (List PyJson)
  current : List PyJson
  currentSize : ℕ

/-- No token yet. -/
def Buckets.empty : Buckets := ⟨[], [], 2⟩

/-- One token. A bucket that it does not fit into is closed first, unless it is
empty. -/
def Buckets.add (dumps : PyJson → String) (maxBytes : ℤ) (packed : Buckets) (token : AsrToken) :
    Buckets :=
  let entryBytes := (dumps token.entry).utf8ByteSize + 1
  let room :=
    if packed.current ≠ [] ∧ maxBytes < (packed.currentSize + entryBytes : ℕ) then
      ⟨packed.buckets ++ [packed.current], [], 2⟩
    else packed
  ⟨room.buckets, room.current ++ [token.entry], room.currentSize + entryBytes⟩

/-- The buckets, with the last one if it holds anything. -/
def Buckets.all (packed : Buckets) : List (List PyJson) :=
  if packed.current = [] then packed.buckets else packed.buckets ++ [packed.current]

/-- `chunk_tokens_for_ws`. -/
def chunkTokensForWs (dumps : PyJson → String) (tokens : List AsrToken) (maxBytes : ℤ) :
    List (List PyJson) :=
  (tokens.foldl (Buckets.add dumps maxBytes) .empty).all

/-- The `max_bytes` it is called with. -/
def wsMaxBytes : ℤ := 24000

variable {dumps : PyJson → String} {tokens : List AsrToken} {maxBytes : ℤ} {packed : Buckets}

theorem Buckets.flatten_all : packed.all.flatten = packed.buckets.flatten ++ packed.current := by
  unfold Buckets.all
  split
  · rename_i empty
    rw [empty, List.append_nil]
  · rw [List.flatten_append, List.flatten_singleton]

/-- A token goes behind those packed before. -/
theorem Buckets.flatten_all_add (token : AsrToken) :
    (packed.add dumps maxBytes token).all.flatten = packed.all.flatten ++ [token.entry] := by
  rw [Buckets.flatten_all, Buckets.flatten_all]
  unfold Buckets.add
  dsimp only
  split
  · rw [List.flatten_append, List.flatten_singleton, List.nil_append]
  · rw [List.append_assoc]

/-- **Chunks.** The buckets hold the entries of the tokens, in their order. -/
theorem flatten_chunkTokensForWs :
    (chunkTokensForWs dumps tokens maxBytes).flatten = tokens.map AsrToken.entry := by
  have packs : ∀ packed : Buckets, (tokens.foldl (Buckets.add dumps maxBytes) packed).all.flatten =
      packed.all.flatten ++ tokens.map AsrToken.entry := by
    induction tokens with
    | nil =>
        intro packed
        exact (List.append_nil _).symm
    | cons token rest ih =>
        intro packed
        rw [List.foldl_cons, ih, Buckets.flatten_all_add, List.append_assoc]
        rfl
  exact packs .empty

end Panakoes.TranscriberStream

/-! ## The size of a bucket

`chunk_tokens_for_ws` adds up the sizes of the texts of the entries, each with one byte more, as
`json.dumps` writes them with spaces. A bucket of several entries is as large as the sum allows at
most when it is sent without them.
-/

namespace Panakoes.TranscriberStream

open JsonText (Style size)

/-- `json.dumps(.., ensure_ascii=False)` writes in this style, with `float.__repr__`. -/
def spacedStyle (floatNumeral : ℚ → JsonText.Numeral) : Style := ⟨true, false, floatNumeral⟩

namespace Buckets

variable {style : Style} {maxBytes : ℤ} {packed : Buckets}

/-- What `current_size` is for the entries of a bucket. -/
def sizeOf (style : Style) (entries : List PyJson) : ℕ :=
  (entries.map fun entry => size (style.write entry) + 1).sum + 2

theorem sizeOf_concat (entries : List PyJson) (entry : PyJson) :
    sizeOf style (entries ++ [entry]) = sizeOf style entries + (size (style.write entry) + 1) := by
  rw [sizeOf, List.map_append, List.sum_append, List.map_singleton, List.sum_singleton, sizeOf]
  omega

/-- The bucket fits as it is added up, unless it has one entry. -/
def Fits (style : Style) (maxBytes : ℤ) (bucket : List PyJson) : Prop :=
  1 < bucket.length → (sizeOf style bucket : ℤ) ≤ maxBytes

/-- No closed bucket is empty, all of them fit, and the current one has the size that is kept. -/
structure Packed (style : Style) (maxBytes : ℤ) (packed : Buckets) : Prop where
  closed : ∀ bucket ∈ packed.buckets, bucket ≠ [] ∧ Fits style maxBytes bucket
  counted : packed.currentSize = sizeOf style packed.current
  fits : Fits style maxBytes packed.current

theorem packed_empty : Packed style maxBytes .empty where
  closed _ member := absurd member List.not_mem_nil
  counted := rfl
  fits several := absurd several (by decide)

/-- A token is added to a bucket that it fits into, or to an empty one. -/
theorem Packed.add (kept : Packed style maxBytes packed) (token : AsrToken) :
    Packed style maxBytes (packed.add (JsonText.dumps style) maxBytes token) := by
  unfold Buckets.add
  rw [JsonText.utf8ByteSize_dumps]
  dsimp only
  split
  · rename_i full
    refine ⟨fun bucket member => ?_, ?_, fun several => absurd several (lt_irrefl _)⟩
    · rcases List.mem_append.mp member with before | last
      · exact kept.closed bucket before
      · cases List.mem_singleton.mp last
        exact ⟨full.1, kept.fits⟩
    · rw [sizeOf_concat]
      rfl
  · rename_i room
    refine ⟨kept.closed, by rw [sizeOf_concat, kept.counted], fun several => ?_⟩
    have started : packed.current ≠ [] := by
      rintro nil
      rw [nil] at several
      exact lt_irrefl _ several
    rw [sizeOf_concat, ← kept.counted]
    exact not_lt.mp fun beyond => room ⟨started, beyond⟩

theorem packed_foldl (tokens : List AsrToken) (kept : Packed style maxBytes packed) :
    Packed style maxBytes
      (tokens.foldl (Buckets.add (JsonText.dumps style) maxBytes) packed) := by
  induction tokens generalizing packed with
  | nil => exact kept
  | cons token rest ih => exact ih (kept.add token)

theorem Packed.all (kept : Packed style maxBytes packed) :
    ∀ bucket ∈ packed.all, bucket ≠ [] ∧ Fits style maxBytes bucket := by
  unfold Buckets.all
  split
  · exact kept.closed
  · rename_i started
    intro bucket member
    rcases List.mem_append.mp member with before | last
    · exact kept.closed bucket before
    · cases List.mem_singleton.mp last
      exact ⟨started, kept.fits⟩

/-- The text of a bucket without spaces is shorter than the size that is added up. -/
theorem size_write_list_lt (style : Style) {bucket : List PyJson} (started : bucket ≠ []) :
    size (style.compact.write (.list bucket)) < sizeOf style bucket := by
  have entries : (bucket.map fun entry => size (style.compact.write entry) + 1).sum ≤
      (bucket.map fun entry => size (style.write entry) + 1).sum :=
    List.sum_le_sum fun entry _ => Nat.succ_le_succ (JsonText.size_write_compact_le style entry)
  rw [JsonText.size_write_compact_list style started, sizeOf]
  omega

end Buckets

/-- **The buckets hold the entries of the tokens in order, none is empty, and a bucket of several
entries is within the limit as a compact array.** -/
theorem chunkTokensForWs_spec (floatNumeral : ℚ → JsonText.Numeral) (tokens : List AsrToken)
    (maxBytes : ℤ) :
    let buckets := chunkTokensForWs (JsonText.dumps (spacedStyle floatNumeral)) tokens maxBytes
    buckets.flatten = tokens.map AsrToken.entry ∧
      (∀ bucket ∈ buckets, bucket ≠ []) ∧
        ∀ bucket ∈ buckets, 1 < bucket.length →
          ((JsonText.dumps (spacedStyle floatNumeral).compact (.list bucket)).utf8ByteSize : ℤ) ≤
            maxBytes := by
  have start : Buckets.Packed (spacedStyle floatNumeral) maxBytes .empty := Buckets.packed_empty
  have kept := (Buckets.packed_foldl tokens start).all
  refine ⟨flatten_chunkTokensForWs, fun bucket member => (kept bucket member).1, ?_⟩
  intro bucket member several
  obtain ⟨started, fits⟩ := kept bucket member
  have smaller := Buckets.size_write_list_lt (spacedStyle floatNumeral) started
  have within := fits several
  rw [JsonText.utf8ByteSize_dumps]
  omega

end Panakoes.TranscriberStream
