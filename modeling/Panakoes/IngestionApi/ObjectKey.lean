import Panakoes.Foundation.PyStrip

/-! # The keys of uploads

The key under which the ingestion API has an upload stored. Its file name is made of characters
that no encoding touches, and so is the identifier of the ingestion.
-/

namespace Panakoes.IngestionApi

/-- The characters that `_FILENAME_SAFE_RE` leaves. -/
def isFilenameSafe (char : Char) : Bool :=
  ('A' ≤ char ∧ char ≤ 'Z') ∨ ('a' ≤ char ∧ char ≤ 'z') ∨ ('0' ≤ char ∧ char ≤ '9') ∨
    char = '.' ∨ char = '_' ∨ char = '-'

/-- `sanitize_filename`. -/
def sanitizeFilename (filename : String) : String :=
  let cleaned := (PyText.strip filename.toList).map fun char =>
    if isFilenameSafe char then char else '_'
  let cleaned := cleaned.dropWhile (· = '.')
  if cleaned = [] then "unnamed" else String.ofList cleaned

/-- `build_object_key`. -/
def buildObjectKey (userId ingestionId filename : String) : String :=
  s!"audio/{userId}/{ingestionId}/{sanitizeFilename filename}"

/-- The last digits of a number in base sixteen. -/
def hexDigits : ℕ → ℕ → List Char
  | 0, _ => []
  | count + 1, value => hexDigits count (value / 16) ++ [Nat.digitChar (value % 16)]

/-- `str` of a UUID. -/
def uuidText (uuid : BitVec 128) : String :=
  let hex := hexDigits 32 uuid.toNat
  String.ofList (hex.take 8 ++ '-' :: (hex.drop 8).take 4 ++ '-' :: (hex.drop 12).take 4 ++
    '-' :: (hex.drop 16).take 4 ++ '-' :: hex.drop 20)

example : uuidText 0x12345678123456781234567812345678 =
    "12345678-1234-5678-1234-567812345678" := by decide +kernel

example : sanitizeFilename " ../a b+c.wav" = "_a_b_c.wav" := by decide +kernel

/-- Characters that are neither separators of a key nor touched by an encoding. -/
def IsPlain (text : String) : Prop :=
  text ≠ "" ∧ ∀ char ∈ text.toList, char ≠ '/' ∧ char ≠ '+' ∧ char ≠ '%'

theorem plain_of_isFilenameSafe {char : Char} (safe : isFilenameSafe char = true) :
    char ≠ '/' ∧ char ≠ '+' ∧ char ≠ '%' := by
  refine ⟨?_, ?_, ?_⟩
  · rintro rfl
    revert safe
    decide
  · rintro rfl
    revert safe
    decide
  · rintro rfl
    revert safe
    decide

/-- A file name that has been sanitized is plain. -/
theorem isPlain_sanitizeFilename (filename : String) : IsPlain (sanitizeFilename filename) := by
  unfold sanitizeFilename
  dsimp only
  split
  · refine ⟨by decide, fun char member => ?_⟩
    have plain : ("unnamed".toList.all fun char => char ≠ '/' ∧ char ≠ '+' ∧ char ≠ '%') = true := by
      decide
    exact of_decide_eq_true (List.all_eq_true.mp plain char member)
  · rename_i nonempty
    refine ⟨fun empty => nonempty ?_, fun char member => ?_⟩
    · exact String.ofList_eq_empty_iff.mp empty
    · rw [String.toList_ofList] at member
      obtain ⟨original, -, same⟩ := List.mem_map.mp ((List.dropWhile_sublist _).subset member)
      rw [← same]
      split
      · rename_i safe
        exact plain_of_isFilenameSafe safe
      · decide

theorem hexDigits_plain (count value : ℕ) :
    ∀ char ∈ hexDigits count value, char ≠ '/' ∧ char ≠ '+' ∧ char ≠ '%' := by
  induction count generalizing value with
  | zero =>
      intro char member
      cases member
  | succ count ih =>
      intro char member
      rcases List.mem_append.mp member with earlier | last
      · exact ih _ char earlier
      · rw [List.mem_singleton.mp last]
        have digits : ∀ digit < 16, Nat.digitChar digit ≠ '/' ∧ Nat.digitChar digit ≠ '+' ∧
            Nat.digitChar digit ≠ '%' := by
          decide
        exact digits _ (Nat.mod_lt _ (by decide))

/-- The text of a UUID is plain. -/
theorem isPlain_uuidText (uuid : BitVec 128) : IsPlain (uuidText uuid) := by
  have digits := hexDigits_plain 32 uuid.toNat
  have dash : '-' ≠ '/' ∧ '-' ≠ '+' ∧ '-' ≠ '%' := by decide
  unfold uuidText
  dsimp only
  refine ⟨?_, fun char member => ?_⟩
  · intro empty
    have nil := String.ofList_eq_empty_iff.mp empty
    simp at nil
  · rw [String.toList_ofList] at member
    simp only [List.mem_append, List.mem_cons] at member
    have inside : ∀ piece : List Char, piece ⊆ hexDigits 32 uuid.toNat → char ∈ piece →
        char ≠ '/' ∧ char ≠ '+' ∧ char ≠ '%' :=
      fun piece subset member => digits char (subset member)
    have piece : ∀ first count, ((hexDigits 32 uuid.toNat).drop first).take count ⊆
        hexDigits 32 uuid.toNat :=
      fun _ _ => List.Subset.trans (List.take_subset _ _) (List.drop_subset _ _)
    rcases member with (((first | rfl | second) | rfl | third) | rfl | fourth) | rfl | fifth
    · exact inside _ (List.take_subset _ _) first
    · exact dash
    · exact inside _ (piece _ _) second
    · exact dash
    · exact inside _ (piece _ _) third
    · exact dash
    · exact inside _ (piece _ _) fourth
    · exact dash
    · exact inside _ (List.drop_subset _ _) fifth

end Panakoes.IngestionApi
