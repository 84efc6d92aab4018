import Mathlib.Data.List.SplitBy
import Panakoes.Foundation.PercentCoding

/-! # Quoting and unquoting

Unquoted text in one pass over its pieces: an escape is an octet, and so is a character of ASCII;
other characters stand for themselves. A text without an escape is left as it is, and every other
text gets shorter. The quoted form of a text is read back as the text.
-/

namespace PercentCoding

open JsonText (hexValue)

/-! ## Pieces -/

/-- A piece of percent-encoded text. -/
inductive Piece where
  | octet (octet : ℕ)
  | char (char : Char)

/-- A character that stands for itself. -/
def Piece.literal (char : Char) : Piece :=
  if char.toNat < 128 then .octet char.toNat else .char char

/-- The pieces of a text. -/
def pieces : List Char → List Piece
  | [] => []
  | '%' :: high :: low :: rest =>
      match hexValue high, hexValue low with
      | some high, some low => .octet (high * 16 + low) :: pieces rest
      | _, _ => .literal '%' :: pieces (high :: low :: rest)
  | char :: rest => .literal char :: pieces rest

/-- The text begins with an escape. -/
def escapesHere : List Char → Bool
  | '%' :: high :: low :: _ => (hexValue high).isSome && (hexValue low).isSome
  | _ => false

/-- There is an escape in the text. -/
def hasEscape : List Char → Bool
  | [] => false
  | char :: rest => escapesHere (char :: rest) || hasEscape rest

/-- The text of pieces, from inside a character. -/
def decodePieces : Option Partial → List Piece → List Char
  | none, [] => []
  | some _, [] => [replacement]
  | place, .octet octet :: rest =>
      let (chars, begun) :=
        match place with
        | none => start octet
        | some place => place.next octet
      chars ++ decodePieces begun rest
  | none, .char char :: rest => char :: decodePieces none rest
  | some _, .char char :: rest => replacement :: char :: decodePieces none rest

variable {char high low : Char} {text rest : List Char}

@[simp] theorem escapesHere_percent :
    escapesHere ('%' :: high :: low :: rest) =
      ((hexValue high).isSome && (hexValue low).isSome) := rfl

theorem escapesHere_of_hex {first second : ℕ} (hexHigh : hexValue high = some first)
    (hexLow : hexValue low = some second) : escapesHere ('%' :: high :: low :: rest) = true := by
  simp [hexHigh, hexLow]

/-- A text is empty, or it begins with an escape or with a character that stands for itself. -/
theorem pieces_induction {motive : List Char → Prop} (nil : motive [])
    (escape : ∀ high low rest first second, hexValue high = some first →
      hexValue low = some second → motive rest → motive ('%' :: high :: low :: rest))
    (literal : ∀ char rest, escapesHere (char :: rest) = false → motive rest →
      motive (char :: rest)) (text : List Char) : motive text := by
  induction text using pieces.induct with
  | case1 => exact nil
  | case2 high low rest first second hexLow hexHigh ih =>
      exact escape high low rest first second hexHigh hexLow ih
  | case3 high low rest plain ih =>
      refine literal _ _ ?_ ih
      rw [escapesHere_percent]
      cases hexHigh : hexValue high with
      | none => rfl
      | some first =>
          cases hexLow : hexValue low with
          | none => rfl
          | some second => exact (plain first second hexHigh hexLow).elim
  | case4 char rest short ih =>
      refine literal _ _ ?_ ih
      unfold escapesHere
      split
      · rename_i same
        cases same
        exact (short _ _ _ rfl rfl).elim
      · rfl

theorem pieces_escape {first second : ℕ} (hexHigh : hexValue high = some first)
    (hexLow : hexValue low = some second) :
    pieces ('%' :: high :: low :: rest) = .octet (first * 16 + second) :: pieces rest := by
  simp only [pieces, hexHigh, hexLow]

theorem pieces_literal (plain : escapesHere (char :: rest) = false) :
    pieces (char :: rest) = .literal char :: pieces rest := by
  rw [pieces.eq_def]
  split
  · rename_i same
    cases same
  · rename_i same
    cases same
    split
    · rename_i hexHigh hexLow
      rw [escapesHere_of_hex hexHigh hexLow] at plain
      cases plain
    · rfl
  · rename_i same
    cases same
    rfl

theorem unquoteToBytes_literal (plain : escapesHere (char :: rest) = false) :
    unquoteToBytes (char :: rest) = char.toNat :: unquoteToBytes rest := by
  rw [unquoteToBytes.eq_def]
  split
  · rename_i same
    cases same
  · rename_i same
    cases same
    split
    · rename_i hexHigh hexLow
      rw [escapesHere_of_hex hexHigh hexLow] at plain
      cases plain
    · rfl
  · rename_i same
    cases same
    rfl

theorem escapesHere_of_ne (other : char ≠ '%') : escapesHere (char :: rest) = false := by
  unfold escapesHere
  split
  · rename_i same
    exact absurd (List.cons_eq_cons.mp same).1 other
  · rfl

/-- Text that does not begin with a hexadecimal digit does not complete an escape. -/
theorem escapesHere_append (plain : escapesHere (char :: text) = false)
    (apart : ∀ next ∈ rest.head?, hexValue next = none) :
    escapesHere (char :: (text ++ rest)) = false := by
  by_cases percent : char = '%'
  · subst percent
    cases text with
    | nil =>
        cases rest with
        | nil => rfl
        | cons high rest =>
            cases rest with
            | nil => rfl
            | cons low rest => simp [apart high rfl]
    | cons high text =>
        cases text with
        | nil =>
            cases rest with
            | nil => rfl
            | cons low rest => simp [apart low rfl]
        | cons low text => exact plain
  · exact escapesHere_of_ne percent

/-- The pieces of a text with a text behind it that does not complete an escape. -/
theorem pieces_append (apart : ∀ next ∈ rest.head?, hexValue next = none) :
    pieces (text ++ rest) = pieces text ++ pieces rest := by
  induction text using pieces_induction with
  | nil => rfl
  | escape high low text first second hexHigh hexLow ih =>
      simp only [List.cons_append, pieces_escape hexHigh hexLow, ih]
  | literal char text plain ih =>
      rw [pieces_literal plain, List.cons_append, pieces_literal (escapesHere_append plain apart),
        ih, List.cons_append]

/-! ## Runs -/

theorem toNat_lt_of_hexValue {value : ℕ} (hex : hexValue char = some value) :
    char.toNat < 128 := by
  have bounded : ∀ limit : Char, limit.toNat < 128 → char ≤ limit → char.toNat < 128 := by
    intro limit ascii le
    exact lt_of_le_of_lt (Char.le_def.mp le) ascii
  unfold hexValue at hex
  split at hex
  · rename_i between
    exact bounded '9' (by decide) between.2
  · split at hex
    · rename_i between
      exact bounded 'f' (by decide) between.2
    · split at hex
      · rename_i between
        exact bounded 'F' (by decide) between.2
      · cases hex

theorem literal_ascii (ascii : char.toNat < 128) : Piece.literal char = .octet char.toNat :=
  if_pos ascii

theorem literal_other (other : ¬ char.toNat < 128) : Piece.literal char = .char char :=
  if_neg other

/-- The pieces of ASCII text are its octets. -/
theorem pieces_ascii (ascii : ∀ char ∈ text, char.toNat < 128) :
    pieces text = (unquoteToBytes text).map .octet := by
  induction text using pieces_induction with
  | nil => rfl
  | escape high low text first second hexHigh hexLow ih =>
      have later := ih fun char member => ascii char (by simp [member])
      simp only [pieces_escape hexHigh hexLow, unquoteToBytes, hexHigh, hexLow, List.map_cons,
        later]
  | literal char text plain ih =>
      rw [pieces_literal plain, unquoteToBytes_literal plain, List.map_cons,
        literal_ascii (ascii char List.mem_cons_self),
        ih fun char member => ascii char (List.mem_cons_of_mem _ member)]

/-- The pieces of a text that begins with no ASCII. -/
theorem pieces_other (other : ¬ char.toNat < 128) :
    pieces (char :: rest) = .char char :: pieces rest := by
  have plain : escapesHere (char :: rest) = false :=
    escapesHere_of_ne fun same => other (by rw [same]; decide)
  rw [pieces_literal plain, literal_other other]

/-- Octets are read as `decodeFrom` does, when no octet is behind them. -/
theorem decodePieces_octets (octets : List ℕ) (place : Option Partial)
    (apart : ∀ next ∈ rest.head?, ¬ next.toNat < 128) :
    decodePieces place (octets.map .octet ++ pieces rest) =
      decodeFrom place octets ++ decodePieces none (pieces rest) := by
  induction octets generalizing place with
  | nil =>
      cases rest with
      | nil => cases place <;> rfl
      | cons next rest =>
          rw [pieces_other (apart next rfl)]
          cases place <;> rfl
  | cons octet octets ih =>
      cases place with
      | none =>
          simp only [List.map_cons, List.cons_append, decodePieces, decodeFrom, ih,
            List.append_assoc]
      | some place =>
          simp only [List.map_cons, List.cons_append, decodePieces, decodeFrom, ih,
            List.append_assoc]

/-- Characters that are no ASCII stand for themselves. -/
theorem decodePieces_others (others : ∀ char ∈ text, ¬ char.toNat < 128) :
    decodePieces none (pieces (text ++ rest)) = text ++ decodePieces none (pieces rest) := by
  induction text with
  | nil => rfl
  | cons char text ih =>
      rw [List.cons_append, pieces_other (others char List.mem_cons_self), decodePieces,
        ih fun char member => others char (List.mem_cons_of_mem _ member), List.cons_append]

/-- Both characters are ASCII, or neither is. -/
def alike (left right : Char) : Bool := left.toNat < 128 ↔ right.toNat < 128

/-- The characters of a run are all like its first one. -/
theorem alike_of_isChain (chain : (char :: text).IsChain fun left right => alike left right) :
    ∀ other ∈ char :: text, (other.toNat < 128 ↔ char.toNat < 128) := by
  induction text generalizing char with
  | nil =>
      intro other member
      rw [List.mem_singleton.mp member]
  | cons next text ih =>
      obtain ⟨same, chain⟩ := List.isChain_cons_cons.mp chain
      intro other member
      rcases List.mem_cons.mp member with rfl | later
      · rfl
      · exact (ih chain other later).trans (of_decide_eq_true same).symm

/-- What follows a run begins with a character of the other kind. -/
theorem apart_flatten {run : List Char} {runs : List (List Char)} {next : Char}
    (apart : (run :: runs).IsChain fun run next =>
      ∃ ends begins, alike (run.getLast ends) (next.head begins) = false)
    (head : next ∈ runs.flatten.head?) :
    ∃ ends, alike (run.getLast ends) next = false := by
  cases runs with
  | nil => cases head
  | cons following runs =>
      obtain ⟨⟨ends, begins, unlike⟩, -⟩ := List.isChain_cons_cons.mp apart
      cases following with
      | nil => exact absurd rfl begins
      | cons first following =>
          cases head
          exact ⟨ends, unlike⟩

/-- Runs that are followed by runs of the other kind are unquoted one by one. -/
theorem decodePieces_flatten (runs : List (List Char)) (nonempty : [] ∉ runs)
    (uniform : ∀ run ∈ runs, run.IsChain fun left right => alike left right)
    (apart : runs.IsChain fun run next =>
      ∃ ends begins, alike (run.getLast ends) (next.head begins) = false) :
    decodePieces none (pieces runs.flatten) = runs.flatMap unquoteRun := by
  induction runs with
  | nil => rfl
  | cons run runs ih =>
      have later := ih (fun member => nonempty (List.mem_cons_of_mem _ member))
        (fun run member => uniform run (List.mem_cons_of_mem _ member)) apart.tail
      cases run with
      | nil => exact absurd List.mem_cons_self nonempty
      | cons char run =>
          have kinds := alike_of_isChain (uniform _ List.mem_cons_self)
          have kind : ∀ next ∈ runs.flatten.head?, (char.toNat < 128 ↔ ¬ next.toNat < 128) := by
            intro next head
            obtain ⟨ends, unlike⟩ := apart_flatten apart head
            have last := kinds _ (List.getLast_mem ends)
            have unlike := of_decide_eq_false unlike
            tauto
          rw [List.flatten_cons, List.flatMap_cons, ← later]
          by_cases ascii : char.toNat < 128
          · have all : ∀ other ∈ char :: run, other.toNat < 128 :=
              fun other member => (kinds other member).mpr ascii
            have behind : ∀ next ∈ runs.flatten.head?, ¬ next.toNat < 128 :=
              fun next head => (kind next head).mp ascii
            rw [pieces_append fun next head => by
                by_contra hex
                obtain ⟨value, hex⟩ := Option.ne_none_iff_exists'.mp hex
                exact behind next head (toNat_lt_of_hexValue hex),
              pieces_ascii all, decodePieces_octets _ _ behind]
            congr 1
            exact (if_pos (List.all_eq_true.mpr fun other member =>
              decide_eq_true (all other member))).symm
          · have others : ∀ other ∈ char :: run, ¬ other.toNat < 128 :=
              fun other member => mt (kinds other member).mp ascii
            rw [decodePieces_others others]
            congr 1
            refine (if_neg fun all => ?_).symm
            exact ascii (of_decide_eq_true (List.all_eq_true.mp all char List.mem_cons_self))

/-- Text is unquoted in one pass over its pieces. -/
theorem unquote_eq (text : List Char) : unquote text = decodePieces none (pieces text) := by
  have read := decodePieces_flatten (text.splitBy alike) (List.nil_notMem_splitBy _ _)
    (fun run member => List.isChain_of_mem_splitBy member) (List.isChain_getLast_head_splitBy _ _)
  rw [List.flatten_splitBy] at read
  exact read.symm

/-! ## Texts that are left as they are -/

/-- A character that has begun waits for an octet that is no ASCII. -/
def Waits (place : Option Partial) : Prop := ∀ begun ∈ place, 0x80 ≤ begun.low

theorem waits_none : Waits none := fun _ begun => by cases begun

theorem waits_start (octet : ℕ) : Waits (start octet).2 := by
  intro begun same
  unfold start at same
  repeat' split at same
  all_goals cases same <;> simp

theorem waits_next (place : Partial) (octet : ℕ) : Waits (place.next octet).2 := by
  intro begun same
  unfold Partial.next at same
  split at same
  · dsimp only at same
    split at same
    · cases same
    · cases same
      exact le_rfl
  · exact waits_start octet begun same

/-- What an octet completes, and the character that waits then. -/
theorem decodePieces_octet (place : Option Partial) (octet : ℕ) :
    ∃ chars begun, Waits begun ∧
      chars.length + begun.toList.length ≤ place.toList.length + 1 ∧
      ∀ behind, decodePieces place (.octet octet :: behind) = chars ++ decodePieces begun behind := by
  have started : (start octet).1.length + (start octet).2.toList.length ≤ 1 := by
    unfold start
    repeat' split
    all_goals simp
  cases place with
  | none =>
      refine ⟨(start octet).1, (start octet).2, waits_start octet, ?_, fun _ => rfl⟩
      simpa using started
  | some place =>
      refine ⟨(place.next octet).1, (place.next octet).2, waits_next place octet, ?_,
        fun _ => rfl⟩
      unfold Partial.next
      split
      · dsimp only
        split <;> simp
      · simp only [List.length_cons, Option.toList_some, List.length_nil]
        omega

/-- The text is no longer than its pieces. -/
theorem length_decodePieces (texts : List Piece) (place : Option Partial) :
    (decodePieces place texts).length ≤ texts.length + place.toList.length := by
  induction texts generalizing place with
  | nil => cases place <;> simp [decodePieces]
  | cons piece texts ih =>
      cases piece with
      | octet octet =>
          obtain ⟨chars, begun, -, bound, reads⟩ := decodePieces_octet place octet
          have later := ih begun
          rw [reads, List.length_append, List.length_cons]
          omega
      | char char =>
          have later := ih none
          simp only [Option.toList_none, List.length_nil] at later
          cases place with
          | none =>
              simp only [decodePieces, List.length_cons]
              omega
          | some place =>
              simp only [decodePieces, List.length_cons, Option.toList_some, List.length_nil]
              omega

/-- An octet of ASCII is a character of its own, whatever is before it. -/
theorem decodePieces_ascii {ascii : ℕ} (small : ascii < 128) (before behind : List Piece)
    (place : Option Partial) (waits : Waits place) :
    decodePieces place (before ++ .octet ascii :: behind) =
      decodePieces place before ++ Char.ofNat ascii :: decodePieces none behind := by
  induction before generalizing place with
  | nil =>
      have starts : start ascii = ([Char.ofNat ascii], none) := if_pos small
      cases place with
      | none => simp only [List.nil_append, decodePieces, starts, List.singleton_append]
      | some place =>
          have low := waits place rfl
          have breaks : place.next ascii = ([replacement, Char.ofNat ascii], none) := by
            unfold Partial.next
            rw [if_neg (by omega), starts]
          simp only [List.nil_append, decodePieces, breaks, List.cons_append]
  | cons piece before ih =>
      cases piece with
      | octet octet =>
          obtain ⟨chars, begun, waits, -, reads⟩ := decodePieces_octet place octet
          rw [List.cons_append, reads, reads, ih begun waits, List.append_assoc]
      | char char =>
          cases place <;> simp only [List.cons_append, decodePieces, ih none waits_none]

theorem length_pieces (text : List Char) : (pieces text).length ≤ text.length := by
  induction text using pieces_induction with
  | nil => exact le_rfl
  | escape high low text first second hexHigh hexLow ih =>
      rw [pieces_escape hexHigh hexLow]
      simp only [List.length_cons]
      omega
  | literal char text plain ih =>
      rw [pieces_literal plain]
      simp only [List.length_cons]
      omega

/-- An escape is shorter than its text. -/
theorem length_pieces_of_hasEscape (escape : hasEscape text = true) :
    (pieces text).length < text.length := by
  induction text using pieces_induction with
  | nil => cases escape
  | escape high low text first second hexHigh hexLow ih =>
      have short := length_pieces text
      rw [pieces_escape hexHigh hexLow]
      simp only [List.length_cons]
      omega
  | literal char text plain ih =>
      rw [hasEscape, plain, Bool.false_or] at escape
      rw [pieces_literal plain]
      simp only [List.length_cons]
      exact Nat.succ_lt_succ (ih escape)

/-- The character that an octet of ASCII or a character that is no ASCII stands for. -/
theorem decodePieces_literal (char : Char) (behind : List Piece) :
    decodePieces none (.literal char :: behind) = char :: decodePieces none behind := by
  by_cases ascii : char.toNat < 128
  · rw [literal_ascii ascii]
    have read := decodePieces_ascii ascii [] behind none waits_none
    rwa [Char.ofNat_toNat] at read
  · rw [literal_other ascii]
    rfl

/-- Text without an escape is left as it is. -/
theorem decodePieces_plain (plain : hasEscape text = false) :
    decodePieces none (pieces text) = text := by
  induction text with
  | nil => rfl
  | cons char text ih =>
      obtain ⟨here, later⟩ := Bool.or_eq_false_iff.mp plain
      rw [pieces_literal here, decodePieces_literal, ih later]

/-- The length of unquoted text tells whether there is an escape. -/
theorem hasEscape_of_length (same : (unquote text).length = text.length) :
    hasEscape text = false := by
  by_contra escape
  have shorter := length_pieces_of_hasEscape (Bool.eq_true_of_not_eq_false escape)
  have bound := length_decodePieces (pieces text) none
  rw [← unquote_eq, same] at bound
  simp only [Option.toList_none, List.length_nil] at bound
  omega

/-- Text is left as it is if and only if it has no escape. -/
theorem unquote_eq_self_iff (text : List Char) :
    unquote text = text ↔ hasEscape text = false := by
  refine ⟨fun same => hasEscape_of_length (congrArg List.length same), fun plain => ?_⟩
  rw [unquote_eq, decodePieces_plain plain]

/-- A slash is read as itself, and separates what is before it from what is behind it. -/
theorem unquote_slash (before behind : List Char) :
    unquote (before ++ '/' :: behind) = unquote before ++ '/' :: unquote behind := by
  have apart : ∀ next ∈ ('/' :: behind).head?, hexValue next = none := by
    intro next head
    cases head
    decide
  have slash : pieces ('/' :: behind) = .octet 47 :: pieces behind :=
    pieces_literal (escapesHere_of_ne (by decide))
  rw [unquote_eq, unquote_eq, unquote_eq, pieces_append apart, slash]
  exact decodePieces_ascii (by decide) _ _ none waits_none

theorem unquotePlus_slash (before behind : List Char) :
    unquotePlus (before ++ '/' :: behind) = unquotePlus before ++ '/' :: unquotePlus behind := by
  unfold unquotePlus
  rw [List.map_append, List.map_cons, if_neg (by decide), unquote_slash]

/-- Plus signs as spaces. -/
def spaced (text : List Char) : List Char :=
  text.map fun char => if char = '+' then ' ' else char

theorem spaced_eq_self_iff : spaced text = text ↔ '+' ∉ text := by
  induction text with
  | nil => simp [spaced]
  | cons char text ih =>
      have tail : spaced (char :: text) = (if char = '+' then ' ' else char) :: spaced text := rfl
      rw [tail, List.cons.injEq, ih, List.mem_cons, not_or]
      refine and_congr_left fun _ => ?_
      by_cases plus : char = '+'
      · subst plus
        decide
      · simp [plus, Ne.symm plus]

/-- Text is left as it is by `unquote_plus` if and only if it has no plus sign and no escape. -/
theorem unquotePlus_eq_self_iff (text : List Char) :
    unquotePlus text = text ↔ '+' ∉ text ∧ hasEscape text = false := by
  constructor
  · intro same
    have plain : hasEscape (spaced text) = false := by
      refine hasEscape_of_length ?_
      exact (congrArg List.length same).trans (List.length_map _).symm
    have unspaced : spaced text = text :=
      ((unquote_eq_self_iff _).mpr plain).symm.trans same
    rw [unspaced] at plain
    exact ⟨spaced_eq_self_iff.mp unspaced, plain⟩
  · rintro ⟨without, plain⟩
    have unspaced := spaced_eq_self_iff.mpr without
    show unquote (spaced text) = text
    rw [unspaced]
    exact (unquote_eq_self_iff text).mpr plain

/-! ## Quoted text -/

/-- The octets of a character in UTF-8. -/
def utf8 (char : Char) : List ℕ :=
  let code := char.toNat
  if code < 0x80 then [code]
  else if code < 0x800 then [0xc0 + code / 0x40, 0x80 + code % 0x40]
  else if code < 0x10000 then
    [0xe0 + code / 0x1000, 0x80 + code / 0x40 % 0x40, 0x80 + code % 0x40]
  else
    [0xf0 + code / 0x40000, 0x80 + code / 0x1000 % 0x40, 0x80 + code / 0x40 % 0x40,
      0x80 + code % 0x40]

/-- A hexadecimal digit. -/
def hexDigit (value : ℕ) : Char := Char.ofNat (if value < 10 then 48 + value else 55 + value)

/-- The escape of an octet. -/
def escapeOctet (octet : ℕ) : List Char := ['%', hexDigit (octet / 16), hexDigit (octet % 16)]

/-- A quoted character. -/
def quoteChar (safe : Char → Bool) (char : Char) : List Char :=
  if char = ' ' then ['+']
  else if safe char then [char]
  else (utf8 char).flatMap escapeOctet

/-- `quote_plus`, with the characters that are left as they are. -/
def quotePlus (safe : Char → Bool) (text : List Char) : List Char :=
  text.flatMap (quoteChar safe)

/-- The characters that are left as they are can be read back. -/
def SafeToKeep (safe : Char → Bool) : Prop :=
  ∀ char, safe char = true → char ≠ '+' ∧ char ≠ '%'

theorem hexDigit_spec : ∀ value < 16, hexValue (hexDigit value) = some value ∧
    hexDigit value ≠ '+' := by
  decide

theorem utf8_lt : ∀ octet ∈ utf8 char, octet < 256 := by
  have bound : char.toNat < 0x110000 := by
    rcases char.valid with low | ⟨-, high⟩
    · exact lt_trans low (by decide)
    · exact high
  intro octet member
  unfold utf8 at member
  dsimp only at member
  split at member
  · simp only [List.mem_singleton] at member
    omega
  · split at member
    · simp only [List.mem_cons, List.not_mem_nil, or_false] at member
      omega
    · split at member
      · simp only [List.mem_cons, List.not_mem_nil, or_false] at member
        omega
      · simp only [List.mem_cons, List.not_mem_nil, or_false] at member
        omega

/-- The octet where a character begins. -/
theorem decodePieces_start {octet : ℕ} {place : Partial} {behind : List Piece}
    (begins : start octet = ([], some place)) :
    decodePieces none (.octet octet :: behind) = decodePieces (some place) behind := by
  simp only [decodePieces, begins, List.nil_append]

/-- An octet in the middle of a character. -/
theorem decodePieces_middle {octet owed : ℕ} {place : Partial} {behind : List Piece}
    (owes : place.owed = owed + 2) (low : place.low ≤ octet) (high : octet ≤ place.high) :
    decodePieces (some place) (.octet octet :: behind) =
      decodePieces (some ⟨owed + 1, 0x80, 0xbf, place.code * 64 + (octet - 0x80)⟩) behind := by
  have next : place.next octet =
      ([], some ⟨owed + 1, 0x80, 0xbf, place.code * 64 + (octet - 0x80)⟩) := by
    unfold Partial.next
    rw [if_pos ⟨low, high⟩]
    dsimp only
    rw [if_neg (by omega), owes]
    rfl
  simp only [decodePieces, next, List.nil_append]

/-- The octet that completes a character. -/
theorem decodePieces_last {octet : ℕ} {place : Partial} {behind : List Piece}
    (owes : place.owed = 1) (low : place.low ≤ octet) (high : octet ≤ place.high) :
    decodePieces (some place) (.octet octet :: behind) =
      Char.ofNat (place.code * 64 + (octet - 0x80)) :: decodePieces none behind := by
  have next : place.next octet = ([Char.ofNat (place.code * 64 + (octet - 0x80))], none) := by
    unfold Partial.next
    rw [if_pos ⟨low, high⟩]
    exact if_pos owes
  simp only [decodePieces, next, List.singleton_append]

/-- The octets of a character are read as the character. -/
theorem decodePieces_utf8 (char : Char) (behind : List Piece) :
    decodePieces none ((utf8 char).map .octet ++ behind) = char :: decodePieces none behind := by
  have valid : char.toNat < 0xd800 ∨ 0xdfff < char.toNat ∧ char.toNat < 0x110000 := char.valid
  have back : ∀ code, code = char.toNat → Char.ofNat code = char := by
    rintro code rfl
    exact Char.ofNat_toNat char
  unfold utf8
  generalize char.toNat = code at valid back
  dsimp only
  split
  · have read := decodePieces_ascii ‹code < 0x80› [] behind none waits_none
    rwa [back code rfl] at read
  · split
    · have begins : start (0xc0 + code / 0x40) = ([], some ⟨1, 0x80, 0xbf, code / 0x40⟩) := by
        unfold start
        rw [if_neg (by omega), if_neg (by omega), if_pos (by omega), Nat.add_sub_cancel_left]
      simp only [List.map_cons, List.map_nil, List.cons_append, List.nil_append]
      rw [decodePieces_start begins, decodePieces_last rfl (by simp) (by dsimp only; omega),
        back _ (by dsimp only; omega)]
    · split
      · have begins : start (0xe0 + code / 0x1000) =
            ([], some ⟨2, if 0xe0 + code / 0x1000 = 0xe0 then 0xa0 else 0x80,
              if 0xe0 + code / 0x1000 = 0xed then 0x9f else 0xbf, code / 0x1000⟩) := by
          unfold start
          rw [if_neg (by omega), if_neg (by omega), if_neg (by omega), if_pos (by omega),
            Nat.add_sub_cancel_left]
        simp only [List.map_cons, List.map_nil, List.cons_append, List.nil_append]
        rw [decodePieces_start begins, @decodePieces_middle _ 0 _ _ rfl
          (by dsimp only; split <;> omega) (by dsimp only; split <;> omega),
          decodePieces_last rfl (by simp) (by dsimp only; omega),
          back _ (by dsimp only; omega)]
      · have begins : start (0xf0 + code / 0x40000) =
            ([], some ⟨3, if 0xf0 + code / 0x40000 = 0xf0 then 0x90 else 0x80,
              if 0xf0 + code / 0x40000 = 0xf4 then 0x8f else 0xbf, code / 0x40000⟩) := by
          unfold start
          rw [if_neg (by omega), if_neg (by omega), if_neg (by omega), if_neg (by omega),
            if_pos (by omega), Nat.add_sub_cancel_left]
        simp only [List.map_cons, List.map_nil, List.cons_append, List.nil_append]
        rw [decodePieces_start begins, @decodePieces_middle _ 1 _ _ rfl
          (by dsimp only; split <;> omega) (by dsimp only; split <;> omega),
          @decodePieces_middle _ 0 _ _ rfl (by simp) (by dsimp only; omega),
          decodePieces_last rfl (by simp) (by dsimp only; omega),
          back _ (by dsimp only; omega)]

/-- The pieces of escaped octets are the octets. -/
theorem pieces_escapes {octets : List ℕ} (bytes : ∀ octet ∈ octets, octet < 256)
    (rest : List Char) :
    pieces (spaced (octets.flatMap escapeOctet) ++ rest) =
      octets.map .octet ++ pieces rest := by
  induction octets with
  | nil => rfl
  | cons octet octets ih =>
      have small := bytes octet List.mem_cons_self
      obtain ⟨hexHigh, high⟩ := hexDigit_spec (octet / 16) (by omega)
      obtain ⟨hexLow, low⟩ := hexDigit_spec (octet % 16) (by omega)
      have unspaced : spaced ((octet :: octets).flatMap escapeOctet) =
          '%' :: hexDigit (octet / 16) :: hexDigit (octet % 16) ::
            spaced (octets.flatMap escapeOctet) := by
        simp [spaced, escapeOctet, high, low]
      have value : octet / 16 * 16 + octet % 16 = octet := Nat.div_add_mod' octet 16
      rw [unspaced, List.cons_append, List.cons_append, List.cons_append,
        pieces_escape hexHigh hexLow, value,
        ih fun octet member => bytes octet (List.mem_cons_of_mem _ member)]
      rfl

/-- A quoted character is read as the character. -/
theorem decodePieces_quoteChar {safe : Char → Bool} (keeps : SafeToKeep safe) (char : Char)
    (rest : List Char) :
    decodePieces none (pieces (spaced (quoteChar safe char) ++ rest)) =
      char :: decodePieces none (pieces rest) := by
  unfold quoteChar
  by_cases space : char = ' '
  · subst space
    rw [if_pos rfl]
    show decodePieces none (pieces (' ' :: rest)) = _
    rw [pieces_literal (escapesHere_of_ne (by decide)), decodePieces_literal]
  · rw [if_neg space]
    by_cases kept : safe char = true
    · obtain ⟨plus, percent⟩ := keeps char kept
      have unspaced : spaced [char] = [char] := spaced_eq_self_iff.mpr (by simp [Ne.symm plus])
      rw [if_pos kept, unspaced, List.singleton_append,
        pieces_literal (escapesHere_of_ne percent), decodePieces_literal]
    · rw [if_neg kept, pieces_escapes (fun _ => utf8_lt _), decodePieces_utf8]

/-- **Quoted text is read back.** -/
theorem unquotePlus_quotePlus {safe : Char → Bool} (keeps : SafeToKeep safe) (text : List Char) :
    unquotePlus (quotePlus safe text) = text := by
  show unquote (spaced (quotePlus safe text)) = text
  rw [unquote_eq]
  induction text with
  | nil => rfl
  | cons char text ih =>
      have split : spaced (quotePlus safe (char :: text)) =
          spaced (quoteChar safe char) ++ spaced (quotePlus safe text) := by
        simp [spaced, quotePlus]
      rw [split, decodePieces_quoteChar keeps, ih]

end PercentCoding
