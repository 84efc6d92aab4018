import Mathlib.Algebra.Order.Ring.Nat
import Mathlib.Data.List.Basic
import Mathlib.Tactic.Ring

/-! # RIFF files

Numbers in bytes, the least significant first, and files that are a form of chunks: an identifier of
four bytes, the length of the body, and the body. A body of odd length is followed by a byte that is
not part of it. A reader of WAV looks for the chunk of the format and for that of the data.
-/

namespace Riff

/-! ## Numbers -/

/-- The lowest bytes of a number. -/
def littleEndian : ℕ → ℕ → List UInt8
  | 0, _ => []
  | width + 1, value => UInt8.ofNat (value % 256) :: littleEndian width (value / 256)

/-- The number that the bytes stand for. -/
def value : List UInt8 → ℕ
  | [] => 0
  | byte :: rest => byte.toNat + 256 * value rest

@[simp] theorem length_littleEndian (width number : ℕ) :
    (littleEndian width number).length = width := by
  induction width generalizing number with
  | zero => rfl
  | succ width ih => rw [littleEndian, List.length_cons, ih]

theorem value_littleEndian (width number : ℕ) :
    value (littleEndian width number) = number % 256 ^ width := by
  induction width generalizing number with
  | zero => rw [pow_zero, Nat.mod_one, littleEndian, value]
  | succ width ih =>
      have byte : (UInt8.ofNat (number % 256)).toNat = number % 256 :=
        UInt8.toNat_ofNat_of_lt' (Nat.mod_lt _ (by decide))
      rw [littleEndian, value, byte, ih, pow_succ', Nat.mod_mul]

/-- A number that fits is read back. -/
theorem value_littleEndian_of_lt {width number : ℕ} (fits : number < 256 ^ width) :
    value (littleEndian width number) = number := by
  rw [value_littleEndian, Nat.mod_eq_of_lt fits]

/-- The bytes of a text of ASCII. -/
def ascii (text : String) : List UInt8 := text.toList.map fun char => UInt8.ofNat char.toNat

/-! ## Chunks -/

/-- A chunk. -/
structure Chunk where
  id : List UInt8
  body : List UInt8
  deriving DecidableEq

/-- The chunks one after the other. Each takes a unit of fuel. -/
def chunks : ℕ → List UInt8 → Option (List Chunk)
  | _, [] => some []
  | 0, _ :: _ => none
  | fuel + 1, bytes@(_ :: _) =>
      let length := value ((bytes.drop 4).take 4)
      let behind := bytes.drop 8
      if bytes.length < 8 ∨ behind.length < length then none
      else
        (chunks fuel (behind.drop (length + length % 2))).map
          (⟨bytes.take 4, behind.take length⟩ :: ·)

/-- The bytes of a chunk, without those behind an odd body. -/
def encode (id body : List UInt8) : List UInt8 := id ++ littleEndian 4 body.length ++ body

/-- The type and the chunks of a file. -/
def form (bytes : List UInt8) : Option (List UInt8 × List Chunk) :=
  if bytes.take 4 = ascii "RIFF" ∧ 12 ≤ bytes.length ∧
      value ((bytes.drop 4).take 4) + 8 = bytes.length then
    (chunks bytes.length (bytes.drop 12)).map fun all => ((bytes.drop 8).take 4, all)
  else none

@[simp] theorem chunks_nil (fuel : ℕ) : chunks fuel [] = some [] := by
  cases fuel <;> rfl

/-- A chunk is read, and then the chunks behind it. An odd body has nothing behind it. -/
theorem chunks_encode {id body rest : List UInt8} {fuel : ℕ} (four : id.length = 4)
    (fits : body.length < 256 ^ 4) (behind : body.length % 2 = 0 ∨ rest = []) :
    chunks (fuel + 1) (encode id body ++ rest) = (chunks fuel rest).map (⟨id, body⟩ :: ·) := by
  have header : (id ++ littleEndian 4 body.length).length = 8 := by
    rw [List.length_append, length_littleEndian, four]
  have split : encode id body ++ rest = (id ++ littleEndian 4 body.length) ++ (body ++ rest) := by
    rw [encode, List.append_assoc]
  have name : (encode id body ++ rest).take 4 = id := by
    rw [split, List.append_assoc, ← four, List.take_left]
  have length : value (((encode id body ++ rest).drop 4).take 4) = body.length := by
    rw [split, List.append_assoc, List.drop_left' four, List.take_left' (length_littleEndian ..),
      value_littleEndian_of_lt fits]
  have tail : (encode id body ++ rest).drop 8 = body ++ rest := by
    rw [split, ← header, List.drop_left]
  have next : (body ++ rest).drop (body.length + body.length % 2) = rest := by
    rw [List.drop_append]
    rcases behind with even | rfl
    · simp [even]
    · simp
  have whole : ¬ ((encode id body ++ rest).length < 8 ∨
      (body ++ rest).length < body.length) := by
    rw [split, List.length_append, header, List.length_append]
    omega
  obtain ⟨first, others, opened⟩ : ∃ first others, encode id body ++ rest = first :: others := by
    apply List.exists_cons_of_ne_nil
    intro empty
    rw [empty] at name
    rw [← name] at four
    cases four
  rw [opened] at name length tail whole ⊢
  simp only [chunks, name, length, tail, next, List.take_left, if_neg whole]

/-- The chunks of a form are read from its bytes. -/
theorem form_encode {kind contents : List UInt8} {all : List Chunk} (four : kind.length = 4)
    (fits : 4 + contents.length < 256 ^ 4)
    (read : chunks (12 + contents.length) contents = some all) :
    form (encode (ascii "RIFF") (kind ++ contents)) = some (kind, all) := by
  have body : (kind ++ contents).length = 4 + contents.length := by
    rw [List.length_append, four]
  have bytes : encode (ascii "RIFF") (kind ++ contents) =
      ascii "RIFF" ++ (littleEndian 4 (4 + contents.length) ++ (kind ++ contents)) := by
    rw [encode, body, List.append_assoc]
  have name : (ascii "RIFF").length = 4 := rfl
  have total : (encode (ascii "RIFF") (kind ++ contents)).length = 12 + contents.length := by
    rw [bytes, List.length_append, List.length_append, length_littleEndian, body, name]
    omega
  have length : value (((encode (ascii "RIFF") (kind ++ contents)).drop 4).take 4) =
      4 + contents.length := by
    rw [bytes, ← name, List.drop_left, name, List.take_left' (length_littleEndian ..),
      value_littleEndian_of_lt fits]
  have behind : (encode (ascii "RIFF") (kind ++ contents)).drop 8 = kind ++ contents := by
    rw [bytes, ← List.append_assoc]
    apply List.drop_left'
    rw [List.length_append, length_littleEndian, name]
  have inner : (encode (ascii "RIFF") (kind ++ contents)).drop 12 = contents := by
    rw [show 12 = 8 + 4 from rfl, ← List.drop_drop, behind]
    exact List.drop_left' four
  have start : (encode (ascii "RIFF") (kind ++ contents)).take 4 = ascii "RIFF" := by
    rw [bytes]
    exact List.take_left' name
  unfold form
  rw [if_pos ⟨start, by omega, by omega⟩, total, inner, read, behind, List.take_left' four,
    Option.map_some]

/-! ## WAV -/

/-- What a WAV file tells: the fields of the format, and the data. -/
structure Wav where
  audioFormat : ℕ
  channels : ℕ
  sampleRate : ℕ
  byteRate : ℕ
  blockAlign : ℕ
  bitsPerSample : ℕ
  data : List UInt8
  deriving DecidableEq

/-- The number in some bytes of a body. -/
def field (body : List UInt8) (offset width : ℕ) : ℕ := value ((body.drop offset).take width)

/-- A reader of WAV files: the first chunk of each kind counts. -/
def readWav (bytes : List UInt8) : Option Wav := do
  let (kind, all) ← form bytes
  let format ← all.find? fun chunk => chunk.id = ascii "fmt "
  let data ← all.find? fun chunk => chunk.id = ascii "data"
  if kind = ascii "WAVE" ∧ 16 ≤ format.body.length then
    return {
      audioFormat := field format.body 0 2
      channels := field format.body 2 2
      sampleRate := field format.body 4 4
      byteRate := field format.body 8 4
      blockAlign := field format.body 12 2
      bitsPerSample := field format.body 14 2
      data := data.body }
  else none

/-- The body of a format chunk. -/
def formatBody (wav : Wav) : List UInt8 :=
  littleEndian 2 wav.audioFormat ++ littleEndian 2 wav.channels ++ littleEndian 4 wav.sampleRate ++
    littleEndian 4 wav.byteRate ++ littleEndian 2 wav.blockAlign ++ littleEndian 2 wav.bitsPerSample

/-- The fields of a format fit into their bytes. -/
structure Wav.Fits (wav : Wav) : Prop where
  audioFormat : wav.audioFormat < 256 ^ 2
  channels : wav.channels < 256 ^ 2
  sampleRate : wav.sampleRate < 256 ^ 4
  byteRate : wav.byteRate < 256 ^ 4
  blockAlign : wav.blockAlign < 256 ^ 2
  bitsPerSample : wav.bitsPerSample < 256 ^ 2
  data : 36 + wav.data.length < 256 ^ 4

/-- A file of a format chunk and a data chunk. -/
def writeWav (wav : Wav) : List UInt8 :=
  encode (ascii "RIFF") (ascii "WAVE" ++ (encode (ascii "fmt ") (formatBody wav) ++
    encode (ascii "data") wav.data))

theorem length_formatBody (wav : Wav) : (formatBody wav).length = 16 := by
  simp [formatBody]

/-- The chunks of a file. -/
theorem form_writeWav {wav : Wav} (fits : wav.Fits) :
    form (writeWav wav) =
      some (ascii "WAVE", [⟨ascii "fmt ", formatBody wav⟩, ⟨ascii "data", wav.data⟩]) := by
  have sixteen := length_formatBody wav
  have bound := fits.data
  have formatLength : (encode (ascii "fmt ") (formatBody wav)).length = 24 := by
    rw [encode, List.length_append, List.length_append, length_littleEndian, sixteen]
    rfl
  have dataLength : (encode (ascii "data") wav.data).length = 8 + wav.data.length := by
    rw [encode, List.length_append, List.length_append, length_littleEndian]
    rfl
  have dataRead : ∀ fuel, chunks (fuel + 1) (encode (ascii "data") wav.data) =
      some [⟨ascii "data", wav.data⟩] := by
    intro fuel
    have read := @chunks_encode (ascii "data") wav.data [] fuel rfl (by omega) (Or.inr rfl)
    rw [List.append_nil, chunks_nil] at read
    exact read
  have contents : (encode (ascii "fmt ") (formatBody wav) ++ encode (ascii "data") wav.data).length =
      32 + wav.data.length := by
    rw [List.length_append, formatLength, dataLength]
    omega
  apply form_encode rfl
  · rw [contents]
    omega
  · rw [contents, show 12 + (32 + wav.data.length) = (42 + wav.data.length + 1) + 1 by omega,
      chunks_encode rfl (by rw [sixteen]; decide) (Or.inl (by rw [sixteen])), dataRead]
    rfl

/-- **A WAV file is read back.** -/
theorem readWav_writeWav {wav : Wav} (fits : wav.Fits) : readWav (writeWav wav) = some wav := by
  have audioFormat : field (formatBody wav) 0 2 = wav.audioFormat :=
    value_littleEndian_of_lt fits.audioFormat
  have channels : field (formatBody wav) 2 2 = wav.channels :=
    value_littleEndian_of_lt fits.channels
  have sampleRate : field (formatBody wav) 4 4 = wav.sampleRate :=
    value_littleEndian_of_lt fits.sampleRate
  have byteRate : field (formatBody wav) 8 4 = wav.byteRate :=
    value_littleEndian_of_lt fits.byteRate
  have blockAlign : field (formatBody wav) 12 2 = wav.blockAlign :=
    value_littleEndian_of_lt fits.blockAlign
  have bitsPerSample : field (formatBody wav) 14 2 = wav.bitsPerSample :=
    value_littleEndian_of_lt fits.bitsPerSample
  have format : ([⟨ascii "fmt ", formatBody wav⟩, ⟨ascii "data", wav.data⟩] : List Chunk).find?
      (fun chunk => chunk.id = ascii "fmt ") = some ⟨ascii "fmt ", formatBody wav⟩ := by
    rw [List.find?_cons_of_pos (by rfl)]
  have data : ([⟨ascii "fmt ", formatBody wav⟩, ⟨ascii "data", wav.data⟩] : List Chunk).find?
      (fun chunk => chunk.id = ascii "data") = some ⟨ascii "data", wav.data⟩ := by
    have other : ascii "fmt " ≠ ascii "data" := by decide
    rw [List.find?_cons_of_neg (by simpa using other), List.find?_cons_of_pos (by rfl)]
  simp only [readWav, form_writeWav fits, format, data, Option.bind_eq_bind, Option.bind_some,
    length_formatBody, audioFormat, channels, sampleRate, byteRate, blockAlign, bitsPerSample]
  rfl

end Riff
