import Panakoes.Foundation.IsoTimestamp
import Panakoes.Foundation.PagedQuery
import Panakoes.Foundation.PagedScan
import Panakoes.Foundation.PyJson
import Panakoes.Foundation.Rounding
import Panakoes.Foundation.Table

/-! # Reading the rollup table

Rows as the table holds them, the two queries for rows, and what they read of a table whose rows are
well formed. A row that lacks the day or the service is read from its sort key.
-/

/-! ## The cost rollup table

One row for each tenant, day and service. The sort key of a row is the day and the service in
one text, so that the rows of a day are those whose sort key begins with the day.
-/

namespace Panakoes.CostApi

/-- `date`. -/
structure Date where
  year : ℕ
  month : ℕ
  day : ℕ
  deriving DecidableEq

/-- `date.isoformat()`. -/
def Date.isoformat (date : Date) : String :=
  String.ofList (Rounding.fixedDigits 4 date.year ++ '-' :: Rounding.fixedDigits 2 date.month ++
    '-' :: Rounding.fixedDigits 2 date.day)

example : (Date.mk 2026 5 8).isoformat = "2026-05-08" := by decide

/-- `DAY_SERVICE_SEPARATOR`. -/
def dayServiceSeparator : String := "#"

/-- `day_prefix`. -/
def dayPrefix (day : Date) : String := day.isoformat ++ dayServiceSeparator

/-- `make_day_service_key`. -/
def makeDayServiceKey (day : Date) (service : String) : String :=
  day.isoformat ++ dayServiceSeparator ++ service

/-- The primary key of a row: `tenant_id` and `day_service`. -/
abbrev RollupKey := String × String

/-- A row of the rollup table. Older rows lack the day and the service. -/
structure RollupRow where
  day : Option String
  service : Option String
  costCents : ℤ
  deriving DecidableEq

/-- The rollup table. -/
abbrev RollupTable := Table RollupKey RollupRow

/-- The sort key begins with the day. -/
def InDay (day : Date) (key : RollupKey) : Prop := (dayPrefix day).toList <+: key.2.toList

instance (day : Date) (key : RollupKey) : Decidable (InDay day key) :=
  inferInstanceAs (Decidable (_ <+: _))

/-- `query_all_tenants_for_day`, before the items are read. -/
def queryAllTenantsForDay (table : RollupTable) (day : Date) :
    List (Sigma fun _ : RollupKey => RollupRow) :=
  table.entries.filter (InDay day ·.1)

/-- The item that `put_rollup` puts, or the `ValueError` it raises. -/
def putRollup (tenantId : String) (day : Date) (service : String) (costCents : ℤ) :
    Except PyError (RollupKey × RollupRow) :=
  if costCents < 0 then .error .valueError
  else if service = "" then .error .valueError
  else if '#' ∈ service.toList then .error .valueError
  else .ok ((tenantId, makeDayServiceKey day service),
    ⟨some day.isoformat, some service, costCents⟩)

/-- What `put_rollup` puts is a row of the day, of the tenant, with the cost. -/
theorem putRollup_eq_ok {tenantId service : String} {day : Date} {costCents : ℤ}
    {put : RollupKey × RollupRow} (accepted : putRollup tenantId day service costCents = .ok put) :
    put.1 = (tenantId, makeDayServiceKey day service) ∧ put.2.costCents = costCents ∧
      0 ≤ costCents := by
  unfold putRollup at accepted
  split at accepted
  · cases accepted
  · rename_i nonneg
    split at accepted
    · cases accepted
    · split at accepted
      · cases accepted
      · cases accepted
        exact ⟨rfl, rfl, Int.not_lt.mp nonneg⟩

theorem inDay_makeDayServiceKey (day : Date) (tenantId service : String) :
    InDay day (tenantId, makeDayServiceKey day service) := by
  unfold InDay makeDayServiceKey dayPrefix
  simp only [String.toList_append]
  exact List.prefix_append _ _

/-- The table has no row of the day. -/
def EmptyDay (table : RollupTable) (day : Date) : Prop :=
  ∀ key, InDay day key → table.lookup key = none

end Panakoes.CostApi

/-! ## Days and windows of days

The days of the calendar, the day after one and the day before, and the walk of a window from its
first day up to the day that ends it. The texts of days are ordered as the days are.
-/

namespace Panakoes.CostApi

/-- A year with a 29 February. -/
def isLeap (year : ℕ) : Bool := year % 4 = 0 ∧ (year % 100 ≠ 0 ∨ year % 400 = 0)

def daysInMonth (year month : ℕ) : ℕ :=
  if month = 2 then (if isLeap year then 29 else 28)
  else if month = 4 ∨ month = 6 ∨ month = 9 ∨ month = 11 then 30
  else 31

theorem daysInMonth_pos (year month : ℕ) : 0 < daysInMonth year month := by
  unfold daysInMonth
  split_ifs <;> decide

theorem daysInMonth_le (year month : ℕ) : daysInMonth year month ≤ 31 := by
  unfold daysInMonth
  split_ifs <;> decide

namespace Date

/-- A day that `date` can hold. -/
structure Valid (date : Date) : Prop where
  year_pos : 0 < date.year
  year_le : date.year ≤ 9999
  month_pos : 0 < date.month
  month_le : date.month ≤ 12
  day_pos : 0 < date.day
  day_le : date.day ≤ daysInMonth date.year date.month

instance : DecidablePred Valid := fun date =>
  decidable_of_iff
    ((0 < date.year ∧ date.year ≤ 9999) ∧ (0 < date.month ∧ date.month ≤ 12) ∧
      0 < date.day ∧ date.day ≤ daysInMonth date.year date.month)
    ⟨fun ⟨year, month, day⟩ => ⟨year.1, year.2, month.1, month.2, day.1, day.2⟩,
      fun valid => ⟨⟨valid.year_pos, valid.year_le⟩, ⟨valid.month_pos, valid.month_le⟩,
        valid.day_pos, valid.day_le⟩⟩

/-- `first < second`. -/
def Before (first second : Date) : Prop :=
  first.year < second.year ∨ first.year = second.year ∧
    (first.month < second.month ∨ first.month = second.month ∧ first.day < second.day)

instance : DecidableRel Before := fun _ _ =>
  inferInstanceAs (Decidable (_ ∨ _ ∧ (_ ∨ _ ∧ _)))

/-- `date + timedelta(days=1)`. -/
def tomorrow (date : Date) : Date :=
  if date.day < daysInMonth date.year date.month then { date with day := date.day + 1 }
  else if date.month < 12 then ⟨date.year, date.month + 1, 1⟩
  else ⟨date.year + 1, 1, 1⟩

/-- `date.fromordinal(date.toordinal() - 1)`. -/
def yesterday (date : Date) : Date :=
  if 1 < date.day then { date with day := date.day - 1 }
  else if 1 < date.month then ⟨date.year, date.month - 1, daysInMonth date.year (date.month - 1)⟩
  else ⟨date.year - 1, 12, 31⟩

/-- A number that grows with the day. -/
def number (date : Date) : ℕ := (date.year * 13 + date.month) * 32 + date.day

variable {date other first second : Date}

theorem before_iff (firstValid : first.Valid) (secondValid : second.Valid) :
    first.Before second ↔ first.number < second.number := by
  have firstDay := firstValid.day_le.trans (daysInMonth_le _ _)
  have secondDay := secondValid.day_le.trans (daysInMonth_le _ _)
  have firstMonth := firstValid.month_le
  have secondMonth := secondValid.month_le
  unfold Before number
  omega

theorem eq_of_number (firstValid : first.Valid) (secondValid : second.Valid)
    (same : first.number = second.number) : first = second := by
  have firstDay := firstValid.day_le.trans (daysInMonth_le _ _)
  have secondDay := secondValid.day_le.trans (daysInMonth_le _ _)
  have firstMonth := firstValid.month_le
  have secondMonth := secondValid.month_le
  obtain ⟨year, month, day⟩ := first
  obtain ⟨otherYear, otherMonth, otherDay⟩ := second
  unfold number at same
  simp only [mk.injEq]
  dsimp only at same firstDay secondDay firstMonth secondMonth
  omega

/-- A day after which there is another has a next day. -/
theorem tomorrow_valid (valid : date.Valid) (otherValid : other.Valid) (before : date.Before other) :
    date.tomorrow.Valid := by
  have last := otherValid.year_le
  have lastMonth := otherValid.month_le
  have long := daysInMonth_pos
  obtain ⟨yearPos, yearLe, monthPos, monthLe, dayPos, dayLe⟩ := valid
  unfold Before at before
  unfold tomorrow
  split
  · exact ⟨yearPos, yearLe, monthPos, monthLe, Nat.succ_pos _, by assumption⟩
  · rename_i ends
    split
    · refine ⟨yearPos, yearLe, Nat.succ_pos _, by assumption, Nat.one_pos, long _ _⟩
    · refine ⟨Nat.succ_pos _, ?_, Nat.one_pos, Nat.one_le_ofNat, Nat.one_pos, long _ _⟩
      -- the last day of a year is not the last of all years
      have within := otherValid.day_le
      rcases before with early | ⟨sameYear, early | ⟨sameMonth, early⟩⟩
      · dsimp only
        omega
      · omega
      · rw [← sameYear, ← sameMonth] at within
        omega

theorem number_lt_tomorrow (valid : date.Valid) : date.number < date.tomorrow.number := by
  have short := valid.day_le.trans (daysInMonth_le _ _)
  unfold tomorrow number
  split
  · dsimp only
    omega
  · split
    · dsimp only
      omega
    · have monthLe := valid.month_le
      dsimp only
      omega

/-- No day is between a day and the next one. -/
theorem tomorrow_le (valid : date.Valid) (otherValid : other.Valid)
    (before : date.number < other.number) : date.tomorrow.number ≤ other.number := by
  have later := (before_iff valid otherValid).mpr before
  have short := daysInMonth_le date.year date.month
  have early := valid.month_le
  have within := otherValid.day_le
  have dayPos := otherValid.day_pos
  have monthPos := otherValid.month_pos
  have monthLe := otherValid.month_le
  unfold Before at later
  unfold tomorrow number
  split
  · dsimp only
    omega
  · rename_i ends
    have sameDay : ¬ (date.year = other.year ∧ date.month = other.month ∧ date.day < other.day) := by
      rintro ⟨sameYear, sameMonth, early⟩
      rw [← sameYear, ← sameMonth] at within
      omega
    split
    · dsimp only
      omega
    · dsimp only
      omega

theorem yesterday_spec (valid : date.Valid) (earlier : ∃ other : Date, other.Valid ∧ other.Before date) :
    date.yesterday.Valid ∧ date.yesterday.tomorrow = date := by
  obtain ⟨other, otherValid, before⟩ := earlier
  obtain ⟨year, month, day⟩ := date
  obtain ⟨yearPos, yearLe, monthPos, monthLe, dayPos, dayLe⟩ := valid
  have otherYear := otherValid.year_pos
  have otherMonth := otherValid.month_pos
  have otherDay := otherValid.day_pos
  have long := daysInMonth_pos
  unfold Before at before
  dsimp only at yearPos yearLe monthPos monthLe dayPos dayLe before
  unfold yesterday
  dsimp only
  split
  · refine ⟨⟨yearPos, yearLe, monthPos, monthLe, ?_, ?_⟩, ?_⟩
    · dsimp only
      omega
    · dsimp only
      omega
    · unfold tomorrow
      dsimp only
      rw [if_pos (by omega)]
      congr 1
      omega
  · split
    · refine ⟨⟨yearPos, yearLe, ?_, ?_, long _ _, le_refl _⟩, ?_⟩
      · dsimp only
        omega
      · dsimp only
        omega
      · unfold tomorrow
        dsimp only
        rw [if_neg (lt_irrefl _), if_pos (by omega)]
        congr 1 <;> omega
    · have december : daysInMonth (year - 1) 12 = 31 := rfl
      refine ⟨⟨?_, ?_, Nat.succ_pos 11, le_refl _, Nat.succ_pos 30, december.ge⟩, ?_⟩
      · dsimp only
        omega
      · dsimp only
        omega
      · unfold tomorrow
        dsimp only
        rw [december, if_neg (lt_irrefl _), if_neg (lt_irrefl _)]
        congr 1 <;> omega

end Date

/-! ## Windows -/

/-- `DateRange`. Its validator refuses a window that ends before it starts. -/
structure DateRange where
  fromDate : Date
  toDate : Date
  fromValid : fromDate.Valid
  toValid : toDate.Valid
  ordered : ¬ toDate.Before fromDate

/-- `from_date <= day < to_date`. -/
def DateRange.Contains (window : DateRange) (day : Date) : Prop :=
  ¬ day.Before window.fromDate ∧ day.Before window.toDate

instance (window : DateRange) : DecidablePred window.Contains := fun _ =>
  inferInstanceAs (Decidable (_ ∧ _))

/-- The days of a walk from a cursor to the end, of at most so many steps. -/
def daysFrom (toDate : Date) : ℕ → Date → List Date
  | 0, _ => []
  | steps + 1, cursor =>
      if cursor.Before toDate then cursor :: daysFrom toDate steps cursor.tomorrow else []

/-- The days of a window in turn. The bound on the steps is never reached. -/
def DateRange.days (window : DateRange) : List Date :=
  daysFrom window.toDate (window.toDate.number - window.fromDate.number) window.fromDate

theorem mem_daysFrom {toDate cursor day : Date} {steps : ℕ} (toValid : toDate.Valid)
    (valid : cursor.Valid) (enough : toDate.number - cursor.number ≤ steps) :
    day ∈ daysFrom toDate steps cursor ↔
      day.Valid ∧ cursor.number ≤ day.number ∧ day.number < toDate.number := by
  induction steps generalizing cursor with
  | zero =>
      apply iff_of_false List.not_mem_nil
      rintro ⟨-, started, before⟩
      omega
  | succ steps ih =>
      unfold daysFrom
      split
      · rename_i before
        have less := (Date.before_iff valid toValid).mp before
        have grows := Date.number_lt_tomorrow valid
        rw [List.mem_cons, ih (Date.tomorrow_valid valid toValid before) (by omega)]
        constructor
        · rintro (rfl | ⟨dayValid, started, ended⟩)
          · exact ⟨valid, le_refl _, less⟩
          · exact ⟨dayValid, by omega, ended⟩
        · rintro ⟨dayValid, started, ended⟩
          rcases started.eq_or_lt with same | later
          · exact Or.inl (Date.eq_of_number dayValid valid same.symm)
          · exact Or.inr ⟨dayValid, Date.tomorrow_le valid dayValid later, ended⟩
      · rename_i ended
        apply iff_of_false List.not_mem_nil
        rintro ⟨-, started, before⟩
        rw [Date.before_iff valid toValid] at ended
        omega

/-- The walk takes the days of the window. -/
theorem DateRange.mem_days {window : DateRange} {day : Date} :
    day ∈ window.days ↔ day.Valid ∧ window.Contains day := by
  unfold DateRange.days DateRange.Contains
  rw [mem_daysFrom window.toValid window.fromValid (le_refl _)]
  apply and_congr_right
  intro valid
  rw [Date.before_iff valid window.fromValid, Date.before_iff valid window.toValid, not_lt]

theorem pairwise_daysFrom {toDate cursor : Date} {steps : ℕ} (toValid : toDate.Valid)
    (valid : cursor.Valid) (enough : toDate.number - cursor.number ≤ steps) :
    (daysFrom toDate steps cursor).Pairwise fun first second => first.number < second.number := by
  induction steps generalizing cursor with
  | zero => exact List.Pairwise.nil
  | succ steps ih =>
      unfold daysFrom
      split
      · rename_i before
        have grows := Date.number_lt_tomorrow valid
        have next := Date.tomorrow_valid valid toValid before
        apply List.pairwise_cons.mpr
        refine ⟨fun day member => ?_, ih next (by omega)⟩
        have later := (mem_daysFrom toValid next (by omega)).mp member
        omega
      · exact List.Pairwise.nil

/-- The walk takes each day once. -/
theorem DateRange.nodup_days (window : DateRange) : window.days.Nodup := by
  have increasing := pairwise_daysFrom window.toValid window.fromValid (le_refl _)
  apply increasing.imp
  rintro first second less rfl
  exact lt_irrefl _ less

/-! ## Texts of days -/

theorem fixedDigits_eq_decimal (places value : ℕ) :
    Rounding.fixedDigits places value = IsoTimestamp.decimal places value := by
  induction places generalizing value with
  | zero => rfl
  | succ places ih => rw [Rounding.fixedDigits, IsoTimestamp.decimal, ih]

/-- The widths of the fields of a day. -/
def dayLayout : List (ℕ × List Char) := [(4, ['-']), (2, ['-']), (2, [])]

theorem Date.toList_isoformat (date : Date) :
    date.isoformat.toList =
      IsoTimestamp.render dayLayout [date.year, date.month, date.day] := by
  rw [Date.isoformat, String.toList_ofList, fixedDigits_eq_decimal, fixedDigits_eq_decimal,
    fixedDigits_eq_decimal]
  simp [dayLayout, IsoTimestamp.render]

theorem Date.Valid.fits {date : Date} (valid : date.Valid) :
    IsoTimestamp.Fits dayLayout [date.year, date.month, date.day] := by
  have yearLe := valid.year_le
  have monthLe := valid.month_le
  have dayLe := valid.day_le.trans (daysInMonth_le _ _)
  refine ⟨?_, ?_, ?_, True.intro⟩ <;> omega

theorem Date.length_isoformat (date : Date) : date.isoformat.toList.length = 10 := by
  rw [Date.toList_isoformat]
  simp [dayLayout, IsoTimestamp.render]

/-- The texts of days are ordered as the days are. -/
theorem Date.isoformat_lt_iff {first second : Date} (firstValid : first.Valid)
    (secondValid : second.Valid) :
    first.isoformat.toList < second.isoformat.toList ↔ first.Before second := by
  rw [Date.toList_isoformat, Date.toList_isoformat,
    IsoTimestamp.render_lt_iff firstValid.fits secondValid.fits]
  unfold Before
  simp only [List.cons_lt_cons_iff, List.lt_irrefl, and_false, or_false]

theorem Date.isoformat_inj {first second : Date} (firstValid : first.Valid)
    (secondValid : second.Valid) (same : first.isoformat.toList = second.isoformat.toList) :
    first = second := by
  have less := Date.isoformat_lt_iff firstValid secondValid
  have more := Date.isoformat_lt_iff secondValid firstValid
  rw [same, iff_false_left (List.lt_irrefl _), Date.before_iff firstValid secondValid] at less
  rw [same, iff_false_left (List.lt_irrefl _), Date.before_iff secondValid firstValid] at more
  exact Date.eq_of_number firstValid secondValid (by omega)

end Panakoes.CostApi

namespace Panakoes.CostApi

/-- `DailyRollupRow`. -/
structure DailyRollupRow where
  tenantId : String
  day : Date
  service : String
  costCents : ℤ
  deriving DecidableEq

/-- `date.fromisoformat` on a text in the form that `isoformat` writes. -/
def Date.fromisoformat (text : String) : Option Date :=
  let chars := text.toList
  let date : Date := ⟨Nat.ofDigitChars 10 (chars.take 4) 0,
    Nat.ofDigitChars 10 ((chars.drop 5).take 2) 0, Nat.ofDigitChars 10 ((chars.drop 8).take 2) 0⟩
  if date.isoformat = text ∧ date.Valid then some date else none

/-- The row made of a day and a service, or the `ValueError` of a text that is no day. -/
def dailyRow (tenantId day service : String) (costCents : ℤ) : Except PyError DailyRollupRow :=
  match Date.fromisoformat day with
  | some day => .ok ⟨tenantId, day, service, costCents⟩
  | none => .error .valueError

/-- `_row_from_item`. -/
def rowFromItem (key : RollupKey) (row : RollupRow) : Except PyError DailyRollupRow :=
  match row.day, row.service with
  | some day, some service => dailyRow key.1 day service row.costCents
  | _, _ =>
      let composite := key.2.toList
      if '#' ∈ composite then
        dailyRow key.1 (String.ofList (composite.takeWhile (· ≠ '#')))
          (String.ofList ((composite.dropWhile (· ≠ '#')).drop 1)) row.costCents
      else .error .valueError

/-- An item of the table. -/
abbrev RollupEntry := Sigma fun _ : RollupKey => RollupRow

/-- `query_all_tenants_for_day`, when the store stops the pages of the scan after so many rows. -/
def tenantsForDay (table : RollupTable) (sizes : List ℕ) (day : Date) :
    Except PyError (List DailyRollupRow) :=
  (PagedScan.readAll (PagedScan.pages (fun entry => InDay day entry.1) table.entries 0 sizes)).mapM
    fun entry => rowFromItem entry.1 entry.2

/-- The rows of a tenant whose sort keys are between two bounds, in the order of these keys. -/
def rowsBetween (table : RollupTable) (tenantId lower upper : String) : List RollupEntry :=
  PagedQuery.inOrder (fun entry : RollupEntry => entry.1.2) (table.entries.filter fun entry =>
    entry.1.1 = tenantId ∧ lower ≤ entry.1.2 ∧ entry.1.2 ≤ upper)

/-- The sentinel behind the last day of a window, of code point 65535. -/
def highSentinel : String := String.singleton (Char.ofNat 0xFFFF)

/-- `query_window`, when the store stops the pages of the query after so many rows. -/
def queryWindow (table : RollupTable) (sizes : List ℕ) (tenantId : String) (fromDate toDate : Date) :
    Except PyError (List DailyRollupRow) :=
  if ¬ fromDate.Before toDate then .ok []
  else
    let answers := PagedScan.pages (fun _ => true)
      (rowsBetween table tenantId (dayPrefix fromDate) (dayPrefix toDate.yesterday ++ highSentinel))
      0 sizes
    (PagedScan.readFirst answers).mapM fun entry => rowFromItem entry.1 entry.2

/-! ## Well-formed rows -/

/-- The row of a day and a service: its key has both, it has neither or the same in attributes, and
its cost is not negative. -/
structure RowOf (day : Date) (service : String) (key : RollupKey) (row : RollupRow) : Prop where
  valid : day.Valid
  sortKey : key.2 = makeDayServiceKey day service
  attributes : row.day = none ∨ row.service = none ∨
    row.day = some day.isoformat ∧ row.service = some service
  nonneg : 0 ≤ row.costCents

/-- A rollup table as its writers fill it. -/
structure Rollup where
  table : RollupTable
  wellFormed : ∀ key row, table.lookup key = some row → ∃ day service, RowOf day service key row

/-- What `put_rollup` puts keeps the table well formed. -/
def Rollup.put (rollup : Rollup) {tenantId service : String} {day : Date} {costCents : ℤ}
    {put : RollupKey × RollupRow} (valid : day.Valid)
    (accepted : putRollup tenantId day service costCents = .ok put) : Rollup where
  table := rollup.table.insert put.1 put.2
  wellFormed key row held := by
    rcases Table.lookup_insert_cases held with ⟨rfl, rfl⟩ | ⟨-, before⟩
    · obtain ⟨sortKey, cost, nonneg⟩ := putRollup_eq_ok accepted
      refine ⟨day, service, valid, by rw [sortKey], ?_, cost ▸ nonneg⟩
      unfold putRollup at accepted
      split_ifs at accepted
      cases accepted
      exact Or.inr (Or.inr ⟨rfl, rfl⟩)
    · exact rollup.wellFormed key row before

variable {day : Date} {service : String} {key : RollupKey} {row : RollupRow} {entry : RollupEntry}

theorem fromisoformat_isoformat (valid : day.Valid) :
    Date.fromisoformat day.isoformat = some day := by
  have year : day.year % 10 ^ 4 = day.year := Nat.mod_eq_of_lt valid.fits.1
  have month : day.month % 10 ^ 2 = day.month := Nat.mod_eq_of_lt valid.fits.2.1
  have number : day.day % 10 ^ 2 = day.day := Nat.mod_eq_of_lt valid.fits.2.2.1
  have chars : day.isoformat.toList = Rounding.fixedDigits 4 day.year ++
      ('-' :: (Rounding.fixedDigits 2 day.month ++ ('-' :: Rounding.fixedDigits 2 day.day))) := by
    rw [Date.isoformat, String.toList_ofList, List.append_assoc]
    rfl
  have four : (Rounding.fixedDigits 4 day.year).length = 4 := Rounding.length_fixedDigits 4 _
  have two : (Rounding.fixedDigits 2 day.month).length = 2 := Rounding.length_fixedDigits 2 _
  have firstPart : day.isoformat.toList.take 4 = Rounding.fixedDigits 4 day.year := by
    rw [chars, List.take_left' four]
  have secondPart : (day.isoformat.toList.drop 5).take 2 = Rounding.fixedDigits 2 day.month := by
    have rest : day.isoformat.toList.drop 5 =
        Rounding.fixedDigits 2 day.month ++ ('-' :: Rounding.fixedDigits 2 day.day) := by
      rw [chars, List.drop_append, List.drop_eq_nil_of_le (by omega), four]
      rfl
    rw [rest, List.take_left' two]
  have thirdPart : (day.isoformat.toList.drop 8).take 2 = Rounding.fixedDigits 2 day.day := by
    have rest : day.isoformat.toList.drop 8 = Rounding.fixedDigits 2 day.day := by
      rw [chars, List.drop_append, List.drop_eq_nil_of_le (by omega), four, List.nil_append,
        List.drop_succ_cons, List.drop_append, List.drop_eq_nil_of_le (by omega), two]
      rfl
    rw [rest, List.take_of_length_le (Rounding.length_fixedDigits 2 _).le]
  unfold Date.fromisoformat
  dsimp only
  rw [firstPart, secondPart, thirdPart, Rounding.ofDigitChars_fixedDigits,
    Rounding.ofDigitChars_fixedDigits, Rounding.ofDigitChars_fixedDigits, year, month, number,
    if_pos ⟨rfl, valid⟩]

theorem isDigit_of_mem_fixedDigits {places value : ℕ} {char : Char}
    (member : char ∈ Rounding.fixedDigits places value) : char.isDigit = true := by
  induction places generalizing value with
  | zero => exact absurd member List.not_mem_nil
  | succ places ih =>
      rw [Rounding.fixedDigits, List.mem_append, List.mem_singleton] at member
      rcases member with early | rfl
      · exact ih early
      · rw [Nat.isDigit_digitChar]
        exact decide_eq_true (Nat.mod_lt _ (by decide))

/-- The text of a day does not contain the separator. -/
theorem separator_not_mem_isoformat (day : Date) : '#' ∉ day.isoformat.toList := by
  intro member
  rw [Date.isoformat, String.toList_ofList] at member
  simp only [List.mem_append, List.mem_cons] at member
  have digit : ∀ {places value : ℕ}, '#' ∉ Rounding.fixedDigits places value := by
    intro places value inside
    exact absurd (isDigit_of_mem_fixedDigits inside) (by decide)
  rcases member with (year | dash | month) | dash | number
  · exact digit year
  · exact absurd dash (by decide)
  · exact digit month
  · exact absurd dash (by decide)
  · exact digit number

theorem toList_makeDayServiceKey (day : Date) (service : String) :
    (makeDayServiceKey day service).toList = day.isoformat.toList ++ '#' :: service.toList := by
  rw [makeDayServiceKey, String.toList_append, String.toList_append, List.append_assoc]
  rfl

/-- A well-formed row is read with the day and the service of its key. -/
theorem RowOf.rowFromItem_eq (rowOf : RowOf day service key row) :
    rowFromItem key row = .ok ⟨key.1, day, service, row.costCents⟩ := by
  have read : dailyRow key.1 day.isoformat service row.costCents =
      .ok ⟨key.1, day, service, row.costCents⟩ := by
    unfold dailyRow
    rw [fromisoformat_isoformat rowOf.valid]
  have apart : ∀ char ∈ day.isoformat.toList, (decide (char ≠ '#')) = true := by
    intro char member
    apply decide_eq_true
    rintro rfl
    exact separator_not_mem_isoformat day member
  have composite : CostApi.rowFromItem key ⟨none, none, row.costCents⟩ =
      .ok ⟨key.1, day, service, row.costCents⟩ := by
    unfold CostApi.rowFromItem
    dsimp only
    rw [rowOf.sortKey, toList_makeDayServiceKey,
      if_pos (List.mem_append_right _ List.mem_cons_self),
      List.takeWhile_append_of_pos apart, List.dropWhile_append_of_pos apart,
      List.takeWhile_cons_of_neg (by decide), List.dropWhile_cons_of_neg (by decide),
      List.append_nil, List.drop_one, List.tail_cons, String.ofList_toList, String.ofList_toList]
    exact read
  obtain ⟨rowDay, rowService, cost⟩ := row
  rcases rowOf.attributes with without | without | ⟨sameDay, sameService⟩
  · dsimp only at without
    subst without
    cases rowService <;> exact composite
  · dsimp only at without
    subst without
    cases rowDay <;> exact composite
  · dsimp only at sameDay sameService
    subst sameDay sameService
    exact read

/-- The keys of a day are those that begin with it. -/
theorem RowOf.inDay_iff {other : Date} (rowOf : RowOf day service key row) (valid : other.Valid) :
    InDay other key ↔ other = day := by
  unfold InDay
  rw [rowOf.sortKey, toList_makeDayServiceKey, dayPrefix, String.toList_append]
  constructor
  · intro begins
    obtain ⟨rest, same⟩ := begins
    rw [List.append_assoc] at same
    have lengths : other.isoformat.toList.length = day.isoformat.toList.length := by
      rw [Date.length_isoformat, Date.length_isoformat]
    obtain ⟨days, -⟩ := List.append_inj same lengths
    exact Date.isoformat_inj valid rowOf.valid days
  · rintro rfl
    exact ⟨service.toList, by rw [List.append_assoc]; rfl⟩

theorem Rollup.rowOf (rollup : Rollup) (member : entry ∈ rollup.table.entries) :
    ∃ day service, RowOf day service entry.1 entry.2 :=
  rollup.wellFormed entry.1 entry.2 (AList.mem_lookup_iff.mpr member)

/-- The row that an item of a well-formed table is read as. -/
def readRow (entry : RollupEntry) : DailyRollupRow :=
  match rowFromItem entry.1 entry.2 with
  | .ok row => row
  | .error _ => ⟨entry.1.1, ⟨0, 0, 0⟩, "", entry.2.costCents⟩

theorem RowOf.readRow_eq (rowOf : RowOf day service entry.1 entry.2) :
    readRow entry = ⟨entry.1.1, day, service, entry.2.costCents⟩ := by
  rw [readRow, rowOf.rowFromItem_eq]

/-- The items of a well-formed table are read. -/
theorem Rollup.mapM_rowFromItem (rollup : Rollup) {entries : List RollupEntry}
    (within : ∀ entry ∈ entries, entry ∈ rollup.table.entries) :
    entries.mapM (fun entry => rowFromItem entry.1 entry.2) =
      (Except.ok (entries.map readRow) : Except PyError (List DailyRollupRow)) := by
  apply PagedScan.mapM_eq_map
  intro entry member
  obtain ⟨day, service, rowOf⟩ := rollup.rowOf (within entry member)
  rw [rowOf.readRow_eq]
  exact rowOf.rowFromItem_eq

/-- The scan of a day reads the rows of the day, however the store stops its pages. -/
theorem Rollup.tenantsForDay_eq (rollup : Rollup) (sizes : List ℕ) (day : Date) :
    tenantsForDay rollup.table sizes day =
      .ok ((queryAllTenantsForDay rollup.table day).map readRow) := by
  unfold tenantsForDay
  rw [PagedScan.readAll_pages]
  exact rollup.mapM_rowFromItem fun entry member => List.mem_of_mem_filter member

/-- All the rows of the table. -/
def Rollup.rows (rollup : Rollup) : List DailyRollupRow := rollup.table.entries.map readRow

theorem Rollup.mem_rows_of {rollup : Rollup} {row : DailyRollupRow} (member : row ∈ rollup.rows) :
    row.day.Valid ∧ 0 ≤ row.costCents := by
  obtain ⟨entry, present, rfl⟩ := List.mem_map.mp member
  obtain ⟨day, service, rowOf⟩ := rollup.rowOf present
  rw [rowOf.readRow_eq]
  exact ⟨rowOf.valid, rowOf.nonneg⟩

/-- The rows of a day are those whose day it is. -/
theorem Rollup.rows_of_day (rollup : Rollup) {day : Date} (valid : day.Valid) :
    (queryAllTenantsForDay rollup.table day).map readRow =
      rollup.rows.filter fun row => row.day = day := by
  unfold Rollup.rows queryAllTenantsForDay
  rw [List.filter_map]
  apply congrArg (List.map readRow)
  apply List.filter_congr
  intro entry member
  obtain ⟨held, service, rowOf⟩ := rollup.rowOf member
  have sameDay : (readRow entry).day = held := by rw [rowOf.readRow_eq]
  change decide (InDay day entry.1) = decide ((readRow entry).day = day)
  rw [decide_eq_decide, rowOf.inDay_iff valid, sameDay]
  exact eq_comm

end Panakoes.CostApi
