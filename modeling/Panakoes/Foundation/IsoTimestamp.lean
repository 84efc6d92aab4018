import Mathlib.Data.String.Basic
import Mathlib.Order.Lex

/-! # Time stamps in one format

ISO 8601 time stamps of one zone with a fixed number of decimals. Each field has its width, so the
texts are ordered as the times are.
-/

namespace IsoTimestamp

/-- A number in so many decimal digits. -/
def decimal : ℕ → ℕ → List Char
  | 0, _ => []
  | width + 1, value => decimal width (value / 10) ++ [Nat.digitChar (value % 10)]

/-- Fields of fixed widths, each with the text that follows it. -/
def render : List (ℕ × List Char) → List ℕ → List Char
  | (width, mark) :: layout, value :: fields =>
      decimal width value ++ (mark ++ render layout fields)
  | _, _ => []

/-- How time stamps are written: the decimals of a second and what stands for UTC. -/
structure Format where
  decimals : ℕ
  zone : String

/-- `YYYY-MM-DDTHH:MM:SS`, the decimals if there are any, and the zone. -/
def Format.layout (format : Format) : List (ℕ × List Char) :=
  [(4, ['-']), (2, ['-']), (2, ['T']), (2, [':']), (2, [':'])] ++
    if format.decimals = 0 then [(2, format.zone.toList)]
    else [(2, ['.']), (format.decimals, format.zone.toList)]

/-- A time of UTC, as precise as the format. -/
structure Timestamp (format : Format) where
  year : ℕ
  month : ℕ
  day : ℕ
  hour : ℕ
  minute : ℕ
  second : ℕ
  fraction : ℕ
  year_lt : year < 10000
  month_le : month ≤ 12
  day_le : day ≤ 31
  hour_lt : hour < 24
  minute_lt : minute < 60
  second_le : second ≤ 60
  fraction_lt : fraction < 10 ^ format.decimals

variable {format : Format}

/-- The fields, from the year on. A time is earlier where the first field that differs is less. -/
def Timestamp.fields (stamp : Timestamp format) : List ℕ :=
  [stamp.year, stamp.month, stamp.day, stamp.hour, stamp.minute] ++
    if format.decimals = 0 then [stamp.second] else [stamp.second, stamp.fraction]

/-- The text of a time stamp. -/
def Timestamp.text (stamp : Timestamp format) : String :=
  String.ofList (render format.layout stamp.fields)

/-! ## The order of texts -/

/-- Texts whose first parts have the same length. -/
theorem append_lt_append_iff {α : Type*} [LinearOrder α] {first second firstRest secondRest : List α}
    (same : first.length = second.length) :
    first ++ firstRest < second ++ secondRest ↔
      first < second ∨ first = second ∧ firstRest < secondRest := by
  induction first generalizing second with
  | nil =>
      obtain rfl := List.length_eq_zero_iff.mp same.symm
      simp
  | cons head first ih =>
      cases second with
      | nil => cases same
      | cons other second =>
          rw [List.cons_append, List.cons_append, List.cons_lt_cons_iff, List.cons_lt_cons_iff,
            ih (Nat.succ.inj same), List.cons.injEq]
          tauto

@[simp] theorem length_decimal (width value : ℕ) : (decimal width value).length = width := by
  induction width generalizing value with
  | zero => rfl
  | succ width ih => rw [decimal, List.length_append, ih, List.length_singleton]

theorem digitChar_lt_iff {first second : ℕ} (firstSmall : first < 10) (secondSmall : second < 10) :
    Nat.digitChar first < Nat.digitChar second ↔ first < second := by
  have all : ∀ first < 10, ∀ second < 10,
      Nat.digitChar first < Nat.digitChar second ↔ first < second := by decide
  exact all first firstSmall second secondSmall

/-- Numbers of one width are written in their order. -/
theorem decimal_lt_iff {width first second : ℕ} (firstSmall : first < 10 ^ width)
    (secondSmall : second < 10 ^ width) :
    decimal width first < decimal width second ↔ first < second := by
  induction width generalizing first second with
  | zero =>
      rw [pow_zero] at firstSmall secondSmall
      simp only [decimal, List.lt_irrefl, false_iff]
      omega
  | succ width ih =>
      rw [pow_succ] at firstSmall secondSmall
      have less := @ih (first / 10) (second / 10) (by omega) (by omega)
      have more := @ih (second / 10) (first / 10) (by omega) (by omega)
      have same : decimal width (first / 10) = decimal width (second / 10) ↔
          first / 10 = second / 10 := by
        refine ⟨fun equal => ?_, fun equal => by rw [equal]⟩
        rw [equal, iff_false_left (List.lt_irrefl _)] at less more
        omega
      rw [decimal, decimal, append_lt_append_iff (by simp), less, same, List.cons_lt_cons_iff,
        digitChar_lt_iff (Nat.mod_lt _ (by decide)) (Nat.mod_lt _ (by decide))]
      simp only [List.lt_irrefl, and_false, or_false]
      omega

theorem decimal_inj {width first second : ℕ} (firstSmall : first < 10 ^ width)
    (secondSmall : second < 10 ^ width) (same : decimal width first = decimal width second) :
    first = second := by
  have less := decimal_lt_iff firstSmall secondSmall
  have more := decimal_lt_iff secondSmall firstSmall
  rw [same, iff_false_left (List.lt_irrefl _)] at less more
  omega

/-- The fields fit into their widths. -/
def Fits : List (ℕ × List Char) → List ℕ → Prop
  | [], [] => True
  | (width, _) :: layout, value :: fields => value < 10 ^ width ∧ Fits layout fields
  | _, _ => False

theorem render_lt_iff {layout : List (ℕ × List Char)} {first second : List ℕ}
    (firstFits : Fits layout first) (secondFits : Fits layout second) :
    render layout first < render layout second ↔ first < second := by
  induction layout generalizing first second with
  | nil =>
      cases first <;> cases second <;> simp_all [Fits, render]
  | cons entry layout ih =>
      obtain ⟨width, mark⟩ := entry
      cases first with
      | nil => exact firstFits.elim
      | cons value fields =>
          cases second with
          | nil => exact secondFits.elim
          | cons other others =>
              rw [render, render, append_lt_append_iff (by simp), append_lt_append_iff rfl,
                decimal_lt_iff firstFits.1 secondFits.1, ih firstFits.2 secondFits.2,
                List.cons_lt_cons_iff]
              simp only [List.lt_irrefl, true_and, false_or]
              refine or_congr_right (and_congr_left fun _ => ⟨decimal_inj firstFits.1 secondFits.1,
                fun same => by rw [same]⟩)

theorem Timestamp.fits (stamp : Timestamp format) : Fits format.layout stamp.fields := by
  obtain ⟨year, month, day, hour, minute, second, fraction, yearLt, monthLe, dayLe, hourLt,
    minuteLt, secondLe, fractionLt⟩ := stamp
  unfold Format.layout Timestamp.fields
  split <;> simp only [List.cons_append, List.nil_append, Fits, and_true] <;> omega

/-- **Time stamps of one format are ordered as their texts are.** -/
theorem Timestamp.text_lt_iff (first second : Timestamp format) :
    first.text < second.text ↔ first.fields < second.fields := by
  rw [String.lt_iff_toList_lt, text, text, String.toList_ofList, String.toList_ofList,
    render_lt_iff first.fits second.fits]

theorem Timestamp.empty_lt_text (stamp : Timestamp format) : "" < stamp.text := by
  have long : 4 ≤ stamp.text.toList.length := by
    simp only [text, String.toList_ofList, Format.layout, fields, List.cons_append, render,
      List.length_append, length_decimal]
    exact Nat.le_add_right _ _
  rw [String.lt_iff_toList_lt]
  cases chars : stamp.text.toList with
  | nil =>
      rw [chars] at long
      cases long
  | cons head tail => exact List.nil_lt_cons head tail

/-! ## A fraction that is left out where it is zero -/

/-- The layout down to the second. -/
def secondsLayout : List (ℕ × List Char) :=
  [(4, ['-']), (2, ['-']), (2, ['T']), (2, [':']), (2, [':']), (2, [])]

/-- The fields down to the second. -/
def Timestamp.seconds (stamp : Timestamp format) : List ℕ :=
  [stamp.year, stamp.month, stamp.day, stamp.hour, stamp.minute, stamp.second]

/-- The time without its fraction. -/
def Timestamp.whole (stamp : Timestamp format) : Timestamp ⟨0, format.zone⟩ where
  year := stamp.year
  month := stamp.month
  day := stamp.day
  hour := stamp.hour
  minute := stamp.minute
  second := stamp.second
  fraction := 0
  year_lt := stamp.year_lt
  month_le := stamp.month_le
  day_le := stamp.day_le
  hour_lt := stamp.hour_lt
  minute_lt := stamp.minute_lt
  second_le := stamp.second_le
  fraction_lt := Nat.one_pos

/-- The text of a time, without the fraction where it is zero. -/
def Timestamp.isoformat (stamp : Timestamp format) : String :=
  if stamp.fraction = 0 then stamp.whole.text else stamp.text

/-- What the text of a time says of its fraction. -/
def Timestamp.fractionText (stamp : Timestamp format) : List Char :=
  if stamp.fraction = 0 then [] else '.' :: decimal format.decimals stamp.fraction

theorem Timestamp.secondsFits (stamp : Timestamp format) : Fits secondsLayout stamp.seconds := by
  obtain ⟨year, month, day, hour, minute, second, fraction, yearLt, monthLe, dayLe, hourLt,
    minuteLt, secondLe, fractionLt⟩ := stamp
  simp only [secondsLayout, seconds, Fits, and_true]
  omega

theorem Timestamp.fields_eq (precise : format.decimals ≠ 0) (stamp : Timestamp format) :
    stamp.fields = stamp.seconds ++ [stamp.fraction] := by
  unfold fields seconds
  rw [if_neg precise]
  rfl

/-- A time that has a fraction is told by its fields. -/
theorem Timestamp.fields_inj (precise : format.decimals ≠ 0) {first second : Timestamp format}
    (same : first.fields = second.fields) : first = second := by
  rw [fields_eq precise, fields_eq precise] at same
  cases first
  cases second
  simp only [seconds, List.cons_append, List.nil_append, List.cons.injEq, and_true] at same
  obtain ⟨rfl, rfl, rfl, rfl, rfl, rfl, rfl⟩ := same
  rfl

theorem Timestamp.toList_isoformat (precise : format.decimals ≠ 0) (stamp : Timestamp format) :
    stamp.isoformat.toList = render secondsLayout stamp.seconds ++
      (stamp.fractionText ++ format.zone.toList) := by
  unfold isoformat fractionText
  split
  · simp [text, Format.layout, fields, whole, secondsLayout, seconds, render]
  · simp [text, Format.layout, fields, precise, secondsLayout, seconds, render]

theorem length_render_seconds (first second : Timestamp format) :
    (render secondsLayout first.seconds).length = (render secondsLayout second.seconds).length := by
  simp [secondsLayout, Timestamp.seconds, render]

/-- A time without a fraction comes before one that has one, as the zone begins with less than a
full stop. -/
theorem Timestamp.fractionText_lt_iff {first second : Timestamp format}
    {mark : Char} {zone firstRest secondRest : List Char} (early : mark < '.') :
    first.fractionText ++ (mark :: zone ++ firstRest) <
        second.fractionText ++ (mark :: zone ++ secondRest) ↔
      first.fraction < second.fraction ∨
        first.fraction = second.fraction ∧ firstRest < secondRest := by
  unfold fractionText
  by_cases firstZero : first.fraction = 0
  · by_cases secondZero : second.fraction = 0
    · rw [if_pos firstZero, if_pos secondZero, List.nil_append, List.nil_append,
        append_lt_append_iff rfl, firstZero, secondZero]
      simp
    · rw [if_pos firstZero, if_neg secondZero, firstZero]
      apply iff_of_true
      · exact List.cons_lt_cons_iff.mpr (Or.inl early)
      · exact Or.inl (Nat.pos_of_ne_zero secondZero)
  · by_cases secondZero : second.fraction = 0
    · rw [if_neg firstZero, if_pos secondZero, secondZero]
      apply iff_of_false
      · intro less
        rcases List.cons_lt_cons_iff.mp less with before | ⟨same, -⟩
        · exact before.asymm early
        · exact early.ne same.symm
      · omega
    · rw [if_neg firstZero, if_neg secondZero]
      change '.' :: (decimal format.decimals first.fraction ++ (mark :: zone ++ firstRest)) <
        '.' :: (decimal format.decimals second.fraction ++ (mark :: zone ++ secondRest)) ↔ _
      rw [List.cons_lt_cons_iff, append_lt_append_iff (by simp), append_lt_append_iff rfl,
        decimal_lt_iff first.fraction_lt second.fraction_lt]
      have same : decimal format.decimals first.fraction = decimal format.decimals second.fraction ↔
          first.fraction = second.fraction :=
        ⟨decimal_inj first.fraction_lt second.fraction_lt, fun same => by rw [same]⟩
      simp [same]

/-- **Texts that begin with a time** are ordered by the time, and then by what follows it. -/
theorem Timestamp.isoformat_append_lt_iff (precise : format.decimals ≠ 0)
    {first second : Timestamp format} {mark : Char} {zone firstRest secondRest : List Char}
    (zoned : format.zone.toList = mark :: zone) (early : mark < '.') :
    first.isoformat.toList ++ firstRest < second.isoformat.toList ++ secondRest ↔
      first.fields < second.fields ∨
        first.fields = second.fields ∧ firstRest < secondRest := by
  have same : render secondsLayout first.seconds = render secondsLayout second.seconds ↔
      first.seconds = second.seconds := by
    constructor
    · intro same
      have less := render_lt_iff first.secondsFits second.secondsFits
      have more := render_lt_iff second.secondsFits first.secondsFits
      rw [same, iff_false_left (List.lt_irrefl _)] at less more
      exact le_antisymm (not_lt.mp more) (not_lt.mp less)
    · intro same
      rw [same]
  have fields : first.seconds ++ [first.fraction] < second.seconds ++ [second.fraction] ↔
      first.seconds < second.seconds ∨
        first.seconds = second.seconds ∧ [first.fraction] < [second.fraction] :=
    append_lt_append_iff rfl
  have fieldsSame : first.seconds ++ [first.fraction] = second.seconds ++ [second.fraction] ↔
      first.seconds = second.seconds ∧ first.fraction = second.fraction := by
    rw [List.append_singleton_inj]
  rw [toList_isoformat precise, toList_isoformat precise, zoned, List.append_assoc,
    List.append_assoc, List.append_assoc, List.append_assoc,
    append_lt_append_iff (length_render_seconds first second),
    render_lt_iff first.secondsFits second.secondsFits, fractionText_lt_iff early, same,
    fields_eq precise, fields_eq precise, fields, fieldsSame]
  simp only [List.cons_lt_cons_iff, List.lt_irrefl, and_false, or_false]
  rw [and_or_left, or_assoc, and_assoc]

end IsoTimestamp
