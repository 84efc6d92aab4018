import Mathlib.Data.List.Infix

/-! # Substitution in texts

Replacing the occurrences of one text by another, and putting a piece into a
text. A pattern that meets the pieces only as a whole, inside of one or outside
of all, does not come about at a seam.
-/

namespace Substitution

variable {α : Type*}

/-! ## Seams -/

/-- The pattern occurs in the text. -/
abbrev Occurs (pattern text : List α) : Prop := pattern <:+: text

/-- The pattern does not stick out of the piece: no end of it begins the piece, no beginning of
it ends the piece, and it does not reach over the piece on both sides. -/
def Seamless (pattern piece : List α) : Prop :=
  ∀ i < pattern.length, 0 < i →
    ¬ pattern.drop i <+: piece ∧ ¬ pattern.take i <:+ piece ∧
      ¬ (piece <+: pattern.drop i ∧ i + piece.length < pattern.length)

instance [DecidableEq α] (pattern piece : List α) : Decidable (Seamless pattern piece) :=
  inferInstanceAs (Decidable (∀ i < pattern.length, _))

variable {pattern piece left right other text : List α}

theorem Seamless.before {head part : List α} (seamless : Seamless (head ++ part) piece)
    (starts : head ≠ []) (ends : part ≠ []) : ¬ part <+: piece := by
  have short : head.length < (head ++ part).length := by
    have long := List.length_pos_of_ne_nil ends
    rw [List.length_append]
    omega
  have apart := (seamless head.length short (List.length_pos_of_ne_nil starts)).1
  rwa [List.drop_left] at apart

theorem Seamless.after {part tail : List α} (seamless : Seamless (part ++ tail) piece)
    (starts : part ≠ []) (ends : tail ≠ []) : ¬ part <:+ piece := by
  have short : part.length < (part ++ tail).length := by
    have long := List.length_pos_of_ne_nil ends
    rw [List.length_append]
    omega
  have apart := (seamless part.length short (List.length_pos_of_ne_nil starts)).2.1
  rwa [List.take_left] at apart

theorem Seamless.around {head tail : List α} (starts : head ≠ []) (ends : tail ≠ []) :
    ¬ Seamless (head ++ (piece ++ tail)) piece := by
  intro seamless
  have long := List.length_pos_of_ne_nil ends
  have short : head.length < (head ++ (piece ++ tail)).length := by
    rw [List.length_append, List.length_append]
    omega
  refine (seamless head.length short (List.length_pos_of_ne_nil starts)).2.2 ⟨?_, ?_⟩
  · rw [List.drop_left]
    exact List.prefix_append _ _
  · rw [List.length_append, List.length_append]
    omega

/-- Where a pattern occurs in two texts on end. -/
theorem occurs_append (occurs : Occurs pattern (left ++ right)) :
    Occurs pattern left ∨ Occurs pattern right ∨
      ∃ head part, pattern = head ++ part ∧ head ≠ [] ∧ part ≠ [] ∧
        head <:+ left ∧ part <+: right := by
  obtain ⟨front, back, same⟩ := occurs
  rw [List.append_assoc] at same
  rcases List.append_eq_append_iff.mp same with ⟨gap, rfl, rest⟩ | ⟨gap, rfl, rest⟩
  · rcases List.append_eq_append_iff.mp rest with ⟨beyond, rfl, -⟩ | ⟨part, rfl, rfl⟩
    · exact Or.inl ⟨front, beyond, by rw [List.append_assoc]⟩
    · by_cases starts : gap = []
      · subst starts
        exact Or.inr (Or.inl ⟨[], back, rfl⟩)
      by_cases ends : part = []
      · subst ends
        exact Or.inl ⟨front, [], by simp⟩
      exact Or.inr (Or.inr ⟨gap, part, rfl, starts, ends, List.suffix_append _ _,
        List.prefix_append _ _⟩)
  · exact Or.inr (Or.inl ⟨gap, back, by rw [rest, List.append_assoc]⟩)

/-- **An occurrence around a piece lies inside of it or on one side.** -/
theorem Seamless.occurs (seamless : Seamless pattern piece)
    (occurs : Occurs pattern (left ++ (piece ++ right))) :
    Occurs pattern left ∨ Occurs pattern piece ∨ Occurs pattern right := by
  rcases occurs_append occurs with inLeft | later | ⟨head, part, rfl, starts, ends, -, part_prefix⟩
  · exact Or.inl inLeft
  · rcases occurs_append later with inPiece | inRight | ⟨head, part, rfl, starts, ends, beyond, -⟩
    · exact Or.inr (Or.inl inPiece)
    · exact Or.inr (Or.inr inRight)
    · exact absurd beyond (seamless.after starts ends)
  · obtain ⟨back, same⟩ := part_prefix
    rcases List.append_eq_append_iff.mp same with ⟨beyond, rfl, -⟩ | ⟨beyond, rfl, rest⟩
    · exact absurd (List.prefix_append _ _) (seamless.before starts ends)
    · by_cases last : beyond = []
      · subst last
        rw [List.append_nil] at seamless ends
        exact absurd List.prefix_rfl (seamless.before starts ends)
      · exact absurd seamless (Seamless.around starts last)

/-- A pattern that does not occur in a piece is not brought into a text by it. -/
theorem Seamless.occurs_of_notMem (seamless : Seamless pattern piece)
    (outside : ¬ Occurs pattern piece) (occurs : Occurs pattern (left ++ (piece ++ right))) :
    Occurs pattern left ∨ Occurs pattern right := by
  rcases seamless.occurs occurs with inLeft | inPiece | inRight
  · exact Or.inl inLeft
  · exact absurd inPiece outside
  · exact Or.inr inRight

/-! ## Replacement -/

variable [DecidableEq α]

/-- Replace the occurrences of `old` from left to right, the first of which may begin only behind
the next `skip` elements. -/
def replaceFrom (old new : List α) : ℕ → List α → List α
  | _, [] => []
  | skip + 1, _ :: rest => replaceFrom old new skip rest
  | 0, head :: rest =>
      if old.isPrefixOf (head :: rest) then new ++ replaceFrom old new (old.length - 1) rest
      else head :: replaceFrom old new 0 rest

/-- Replace the occurrences of a text that is not empty. -/
def replace (old new text : List α) : List α := replaceFrom old new 0 text

variable {old new : List α}

@[simp] theorem replace_nil : replace old new [] = [] := rfl

theorem replaceFrom_drop (skip : ℕ) (text : List α) :
    replaceFrom old new skip text = replace old new (text.drop skip) := by
  induction skip generalizing text with
  | zero => rfl
  | succ skip ih =>
      cases text with
      | nil => rfl
      | cons head rest => exact ih rest

theorem replace_of_prefix (some_text : old ≠ []) :
    replace old new (old ++ text) = new ++ replace old new text := by
  obtain ⟨head, rest, rfl⟩ := List.exists_cons_of_ne_nil some_text
  have starts : (head :: rest).isPrefixOf (head :: (rest ++ text)) = true :=
    List.isPrefixOf_iff_prefix.mpr (List.prefix_append (head :: rest) text)
  rw [replace, List.cons_append, replaceFrom, if_pos starts, replaceFrom_drop, List.length_cons,
    Nat.add_sub_cancel, List.drop_left]

theorem replace_cons {head : α} (elsewhere : ¬ old <+: head :: text) :
    replace old new (head :: text) = head :: replace old new text := by
  rw [replace, replaceFrom, if_neg fun starts => elsewhere (List.isPrefixOf_iff_prefix.mp starts)]
  rfl

/-- The first occurrence, if there is one. -/
theorem replace_cases (some_text : old ≠ []) (text : List α) :
    (¬ Occurs old text ∧ replace old new text = text) ∨
      ∃ gap rest, text = gap ++ (old ++ rest) ∧ ¬ Occurs old gap ∧
        replace old new text = gap ++ (new ++ replace old new rest) := by
  induction text with
  | nil => exact Or.inl ⟨fun occurs => some_text (List.infix_nil.mp occurs), rfl⟩
  | cons head tail ih =>
      by_cases here : old <+: head :: tail
      · obtain ⟨rest, same⟩ := here
        refine Or.inr ⟨[], rest, same.symm, fun occurs => some_text (List.infix_nil.mp occurs), ?_⟩
        rw [← same, replace_of_prefix some_text]
        rfl
      · have elsewhere : ∀ {part : List α}, part <+: tail → ¬ Occurs old part →
            ¬ Occurs old (head :: part) := by
          intro part starts absent occurs
          rcases List.infix_cons_iff.mp occurs with prefixed | inside
          · exact here (prefixed.trans (List.cons_prefix_cons.mpr ⟨rfl, starts⟩))
          · exact absent inside
        rw [replace_cons here]
        rcases ih with ⟨absent, same⟩ | ⟨gap, rest, rfl, absent, same⟩
        · exact Or.inl ⟨elsewhere List.prefix_rfl absent, by rw [same]⟩
        · exact Or.inr ⟨head :: gap, rest, rfl, elsewhere (List.prefix_append _ _) absent,
            by rw [same]; rfl⟩

/-- A replacement brings in no pattern that is seamless. -/
theorem occurs_of_replace (some_text : old ≠ []) (seamless : Seamless pattern new)
    (outside : ¬ Occurs pattern new) (occurs : Occurs pattern (replace old new text)) :
    Occurs pattern text := by
  induction long : text.length using Nat.strong_induction_on generalizing text with
  | _ size ih =>
      rcases replace_cases some_text text with ⟨-, same⟩ | ⟨gap, rest, rfl, -, same⟩
      · rwa [same] at occurs
      · rw [same] at occurs
        have shorter : rest.length < size := by
          have some_length := List.length_pos_of_ne_nil some_text
          rw [← long, List.length_append, List.length_append]
          omega
        rcases seamless.occurs_of_notMem outside occurs with inGap | later
        · exact inGap.trans (List.prefix_append _ _).isInfix
        · refine (ih rest.length shorter later rfl).trans ?_
          exact ((List.suffix_append old rest).trans (List.suffix_append gap _)).isInfix

/-- A text that has been replaced does not occur any more. -/
theorem not_occurs_replace (some_text : old ≠ []) (seamless : Seamless old new)
    (outside : ¬ Occurs old new) : ¬ Occurs old (replace old new text) := by
  induction long : text.length using Nat.strong_induction_on generalizing text with
  | _ size ih =>
      rcases replace_cases some_text text with ⟨absent, same⟩ | ⟨gap, rest, rfl, absent, same⟩
      · rwa [same]
      · rw [same]
        intro occurs
        have shorter : rest.length < size := by
          have some_length := List.length_pos_of_ne_nil some_text
          rw [← long, List.length_append, List.length_append]
          omega
        rcases seamless.occurs_of_notMem outside occurs with inGap | later
        · exact absent inGap
        · exact ih rest.length shorter rfl later

/-- Replace one text after another. -/
def replaceAll (pairs : List (List α × List α)) (text : List α) : List α :=
  pairs.foldl (fun text pair => replace pair.1 pair.2 text) text

theorem replaceAll_nil (pairs : List (List α × List α)) : replaceAll pairs [] = [] := by
  induction pairs with
  | nil => rfl
  | cons pair rest ih => exact ih

/-- The pattern is brought in by none of the replacements. -/
def Stays (pattern : List α) (pairs : List (List α × List α)) : Prop :=
  ∀ pair ∈ pairs, pair.1 ≠ [] ∧ Seamless pattern pair.2 ∧ ¬ Occurs pattern pair.2

variable {pairs : List (List α × List α)}

theorem occurs_of_replaceAll (stays : Stays pattern pairs)
    (occurs : Occurs pattern (replaceAll pairs text)) : Occurs pattern text := by
  induction pairs generalizing text with
  | nil => exact occurs
  | cons pair rest ih =>
      obtain ⟨some_text, seamless, outside⟩ := stays pair List.mem_cons_self
      have later := ih (fun other member => stays other (List.mem_cons_of_mem _ member)) occurs
      exact occurs_of_replace some_text seamless outside later

/-- **What is replaced and brought in by no replacement is gone.** -/
theorem not_occurs_replaceAll {pair : List α × List α} (member : pair ∈ pairs)
    (stays : Stays pair.1 pairs) : ¬ Occurs pair.1 (replaceAll pairs text) := by
  induction pairs generalizing text with
  | nil => cases member
  | cons first rest ih =>
      have later : Stays pair.1 rest :=
        fun other member => stays other (List.mem_cons_of_mem _ member)
      rcases List.mem_cons.mp member with rfl | member
      · intro occurs
        obtain ⟨some_text, seamless, outside⟩ := stays pair List.mem_cons_self
        exact not_occurs_replace some_text seamless outside (occurs_of_replaceAll later occurs)
      · exact ih member later

end Substitution
