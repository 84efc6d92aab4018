import Mathlib.Data.String.Basic
import Panakoes.CostApi.RollupStore

/-! # The range query against the scans of the days

The sort keys of a tenant are ordered by their days and on one day by their services. The range query
has an upper bound for the services of the last day, and it reads one page.
-/

namespace Panakoes.CostApi

/-! ## The order of the sort keys -/

section Order

variable {day last : Date} {service : String}

/-- A sort key is at or after the text of a day. -/
theorem dayPrefix_le_key (lastValid : last.Valid) (valid : day.Valid) :
    dayPrefix last ≤ makeDayServiceKey day service ↔ ¬ day.Before last := by
  have lengths : day.isoformat.toList.length = last.isoformat.toList.length := by
    rw [Date.length_isoformat, Date.length_isoformat]
  have least : ¬ '#' :: service.toList < ['#'] := by
    rw [List.cons_lt_cons_iff]
    simp
  rw [← not_lt, not_iff_not, String.lt_iff_toList_lt, toList_makeDayServiceKey, dayPrefix,
    String.toList_append]
  change _ < _ ++ ['#'] ↔ _
  rw [IsoTimestamp.append_lt_append_iff lengths, Date.isoformat_lt_iff valid lastValid,
    or_iff_left fun both => least both.2]

/-- A sort key is at most the bound of a day. -/
theorem key_le_bound (lastValid : last.Valid) (valid : day.Valid) :
    makeDayServiceKey day service ≤ dayPrefix last ++ highSentinel ↔
      day.Before last ∨ day = last ∧ service ≤ highSentinel := by
  have lengths : last.isoformat.toList.length = day.isoformat.toList.length := by
    rw [Date.length_isoformat, Date.length_isoformat]
  have same : last.isoformat.toList = day.isoformat.toList ↔ day = last :=
    ⟨fun texts => (Date.isoformat_inj lastValid valid texts).symm, fun equal => by rw [equal]⟩
  have services : '#' :: highSentinel.toList < '#' :: service.toList ↔ highSentinel < service := by
    rw [List.cons_lt_cons_iff, String.lt_iff_toList_lt]
    simp
  rw [← not_lt, String.lt_iff_toList_lt, toList_makeDayServiceKey, String.toList_append, dayPrefix,
    String.toList_append, List.append_assoc]
  change ¬ _ ++ '#' :: highSentinel.toList < _ ↔ _
  rw [IsoTimestamp.append_lt_append_iff lengths, Date.isoformat_lt_iff lastValid valid, same,
    services, Date.before_iff lastValid valid, Date.before_iff valid lastValid, ← not_lt]
  constructor
  · intro within
    rw [not_or] at within
    rcases (not_lt.mp within.1).lt_or_eq with less | equal
    · exact Or.inl less
    · have sameDay := Date.eq_of_number valid lastValid equal
      exact Or.inr ⟨sameDay, fun above => within.2 ⟨sameDay, above⟩⟩
  · rintro (less | ⟨equal, below⟩) (more | ⟨sameDay, above⟩)
    · omega
    · rw [sameDay] at less
      exact lt_irrefl _ less
    · rw [equal] at more
      exact lt_irrefl _ more
    · exact below above

/-- The days before a day are those up to the one before it. -/
theorem before_iff_yesterday {toDate : Date} (toValid : toDate.Valid)
    (earlier : ∃ other : Date, other.Valid ∧ other.Before toDate) (valid : day.Valid) :
    day.Before toDate ↔ day.Before toDate.yesterday ∨ day = toDate.yesterday := by
  obtain ⟨lastValid, next⟩ := Date.yesterday_spec toValid earlier
  have grows := Date.number_lt_tomorrow lastValid
  rw [next] at grows
  rw [Date.before_iff valid toValid, Date.before_iff valid lastValid]
  constructor
  · intro less
    rcases lt_trichotomy day.number toDate.yesterday.number with early | same | late
    · exact Or.inl early
    · exact Or.inr (Date.eq_of_number valid lastValid same)
    · have above := Date.tomorrow_le lastValid valid late
      rw [next] at above
      omega
  · rintro (early | rfl)
    · omega
    · exact grows

end Order

/-! ## What the query reads -/

variable {rollup : Rollup} {tenantId : String} {fromDate toDate : Date} {row : DailyRollupRow}

/-- The rows of a tenant from one day up to another that is excluded. -/
def Rollup.tenantRows (rollup : Rollup) (tenantId : String) (fromDate toDate : Date) :
    List DailyRollupRow :=
  rollup.rows.filter fun row =>
    row.tenantId = tenantId ∧ ¬ row.day.Before fromDate ∧ row.day.Before toDate

/-- The rows that the daily scans of these days find for the tenant. -/
def DailyRows (table : RollupTable) (daySizes : Date → List ℕ) (tenantId : String)
    (fromDate toDate : Date) (row : DailyRollupRow) : Prop :=
  ∃ day : Date, (day.Valid ∧ ¬ day.Before fromDate ∧ day.Before toDate) ∧
    ∃ rows, tenantsForDay table (daySizes day) day = .ok rows ∧ row ∈ rows ∧
      row.tenantId = tenantId

/-- The range query returns the rows that the daily scans find. -/
def QueryAgrees (table : RollupTable) (sizes : List ℕ) (daySizes : Date → List ℕ)
    (tenantId : String) (fromDate toDate : Date) : Prop :=
  ∃ rows, queryWindow table sizes tenantId fromDate toDate = .ok rows ∧
    ∀ row, row ∈ rows ↔ DailyRows table daySizes tenantId fromDate toDate row

/-- The services of the last day are at most the sentinel, and the rows fit in the first page. -/
structure OnePage (rollup : Rollup) (sizes : List ℕ) (tenantId : String) (fromDate toDate : Date) :
    Prop where
  services : ∀ row ∈ rollup.rows, row.tenantId = tenantId → row.day = toDate.yesterday →
    row.service ≤ highSentinel
  firstPage : ∀ size ∈ sizes.head?, (rollup.tenantRows tenantId fromDate toDate).length ≤ size

/-- The daily scans find the rows of the tenant. -/
theorem dailyRows_iff (daySizes : Date → List ℕ) :
    DailyRows rollup.table daySizes tenantId fromDate toDate row ↔
      row ∈ rollup.tenantRows tenantId fromDate toDate := by
  unfold DailyRows Rollup.tenantRows
  rw [List.mem_filter, decide_eq_true_eq]
  constructor
  · rintro ⟨day, ⟨valid, started, ended⟩, rows, read, member, tenant⟩
    rw [rollup.tenantsForDay_eq, rollup.rows_of_day valid] at read
    cases read
    obtain ⟨held, sameDay⟩ := List.mem_filter.mp member
    obtain rfl := of_decide_eq_true sameDay
    exact ⟨held, tenant, started, ended⟩
  · rintro ⟨held, tenant, started, ended⟩
    have valid := (Rollup.mem_rows_of held).1
    refine ⟨row.day, ⟨valid, started, ended⟩, _, rollup.tenantsForDay_eq _ _, ?_, tenant⟩
    rw [rollup.rows_of_day valid]
    exact List.mem_filter.mpr ⟨held, decide_eq_true rfl⟩

/-- No two rows of a table are the same. -/
theorem Rollup.nodup_rows (rollup : Rollup) : rollup.rows.Nodup := by
  refine List.Nodup.map_on ?_ rollup.table.nodupKeys.nodup
  intro first firstMember second secondMember same
  obtain ⟨firstDay, firstService, firstOf⟩ := rollup.rowOf firstMember
  obtain ⟨secondDay, secondService, secondOf⟩ := rollup.rowOf secondMember
  rw [firstOf.readRow_eq, secondOf.readRow_eq] at same
  injection same with tenant day service cents
  have keys : first.1 = second.1 := by
    apply Prod.ext tenant
    rw [firstOf.sortKey, secondOf.sortKey, day, service]
  exact rollup.table.nodupKeys.eq_of_fst_eq firstMember secondMember keys

/-- The rows between two bounds, as they are read. -/
theorem Rollup.rowsBetween_perm (rollup : Rollup) (tenantId lower upper : String) :
    ((rowsBetween rollup.table tenantId lower upper).map readRow).Perm
      (rollup.rows.filter fun row => row.tenantId = tenantId ∧
        lower ≤ makeDayServiceKey row.day row.service ∧
          makeDayServiceKey row.day row.service ≤ upper) := by
  unfold rowsBetween Rollup.rows
  refine ((List.perm_insertionSort _ _).map readRow).trans (List.Perm.of_eq ?_)
  rw [List.filter_map]
  apply congrArg (List.map readRow)
  apply List.filter_congr
  intro entry member
  obtain ⟨day, service, rowOf⟩ := rollup.rowOf member
  rw [Function.comp_apply, rowOf.readRow_eq, rowOf.sortKey]

/-- A row of the table is between the bounds of a window if its day is in it and its service is at
most the sentinel on the last day. -/
theorem between_iff (fromValid : fromDate.Valid) (toValid : toDate.Valid)
    (ordered : fromDate.Before toDate) (valid : row.day.Valid) :
    dayPrefix fromDate ≤ makeDayServiceKey row.day row.service ∧
        makeDayServiceKey row.day row.service ≤ dayPrefix toDate.yesterday ++ highSentinel ↔
      (¬ row.day.Before fromDate ∧ row.day.Before toDate) ∧
        (row.day = toDate.yesterday → row.service ≤ highSentinel) := by
  have earlier : ∃ other : Date, other.Valid ∧ other.Before toDate := ⟨fromDate, fromValid, ordered⟩
  have lastValid := (Date.yesterday_spec toValid earlier).1
  have irreflexive : ∀ day : Date, day.Valid → ¬ day.Before day := fun day dayValid before =>
    lt_irrefl _ ((Date.before_iff dayValid dayValid).mp before)
  rw [dayPrefix_le_key fromValid valid, key_le_bound lastValid valid,
    before_iff_yesterday toValid earlier valid, and_assoc]
  apply and_congr_right
  intro _
  constructor
  · rintro (early | ⟨last, below⟩)
    · refine ⟨Or.inl early, fun last => ?_⟩
      rw [last] at early
      exact absurd early (irreflexive _ lastValid)
    · exact ⟨Or.inr last, fun _ => below⟩
  · rintro ⟨early | last, below⟩
    · exact Or.inl early
    · exact Or.inr ⟨last, below last⟩

/-- The rows of the last day are in the window. -/
theorem Rollup.mem_tenantRows_of_yesterday (rollup : Rollup) (fromValid : fromDate.Valid)
    (toValid : toDate.Valid) (ordered : fromDate.Before toDate) (held : row ∈ rollup.rows)
    (tenant : row.tenantId = tenantId) (last : row.day = toDate.yesterday) :
    row ∈ rollup.tenantRows tenantId fromDate toDate := by
  have earlier : ∃ other : Date, other.Valid ∧ other.Before toDate := ⟨fromDate, fromValid, ordered⟩
  have valid := (Rollup.mem_rows_of held).1
  have ended := (before_iff_yesterday toValid earlier valid).mpr (Or.inr last)
  have started : ¬ row.day.Before fromDate := by
    have lastValid := (Date.yesterday_spec toValid earlier).1
    have first := (before_iff_yesterday toValid earlier fromValid).mp ordered
    rw [Date.before_iff fromValid lastValid] at first
    rw [last, Date.before_iff lastValid fromValid]
    rcases first with less | same
    · omega
    · rw [same]
      exact lt_irrefl _
  exact List.mem_filter.mpr ⟨held, decide_eq_true ⟨tenant, started, ended⟩⟩

/-- The rows between the bounds of a window. -/
def Rollup.boundRows (rollup : Rollup) (tenantId : String) (fromDate toDate : Date) :
    List DailyRollupRow :=
  (rowsBetween rollup.table tenantId (dayPrefix fromDate)
    (dayPrefix toDate.yesterday ++ highSentinel)).map readRow

theorem Rollup.nodup_boundRows (rollup : Rollup) (tenantId : String) (fromDate toDate : Date) :
    (rollup.boundRows tenantId fromDate toDate).Nodup :=
  (rollup.rowsBetween_perm tenantId _ _).nodup_iff.mpr (rollup.nodup_rows.filter _)

/-- The bounds leave out the services of the last day above the sentinel. -/
theorem Rollup.mem_boundRows (rollup : Rollup) (fromValid : fromDate.Valid)
    (toValid : toDate.Valid) (ordered : fromDate.Before toDate) :
    row ∈ rollup.boundRows tenantId fromDate toDate ↔
      row ∈ rollup.tenantRows tenantId fromDate toDate ∧
        (row.day = toDate.yesterday → row.service ≤ highSentinel) := by
  unfold Rollup.tenantRows Rollup.boundRows
  rw [(rollup.rowsBetween_perm tenantId _ _).mem_iff, List.mem_filter, List.mem_filter,
    decide_eq_true_eq, decide_eq_true_eq, and_assoc, and_assoc]
  apply and_congr_right
  intro held
  rw [between_iff fromValid toValid ordered (Rollup.mem_rows_of held).1]

/-- What the range query returns. -/
theorem Rollup.queryWindow_eq (rollup : Rollup) (sizes : List ℕ) (tenantId : String)
    (ordered : fromDate.Before toDate) :
    queryWindow rollup.table sizes tenantId fromDate toDate =
      .ok (PagedScan.firstRows (rollup.boundRows tenantId fromDate toDate) sizes) := by
  unfold queryWindow Rollup.boundRows
  rw [if_neg (not_not_intro ordered)]
  dsimp only
  rw [PagedScan.readFirst_pages, List.filter_true, PagedScan.firstRows_map]
  apply rollup.mapM_rowFromItem
  intro entry member
  exact List.mem_of_mem_filter (PagedQuery.mem_inOrder.mp (PagedScan.firstRows_subset _ _ member))

variable {sizes : List ℕ} {daySizes : Date → List ℕ}

/-- A query that agrees with the scans has read all in one page. -/
theorem Rollup.onePage_of_agrees (rollup : Rollup) (fromValid : fromDate.Valid)
    (toValid : toDate.Valid) (ordered : fromDate.Before toDate)
    (agrees : QueryAgrees rollup.table sizes daySizes tenantId fromDate toDate) :
    OnePage rollup sizes tenantId fromDate toDate := by
  obtain ⟨rows, read, same⟩ := agrees
  rw [rollup.queryWindow_eq sizes tenantId ordered] at read
  cases read
  have all : ∀ row ∈ rollup.tenantRows tenantId fromDate toDate,
      row ∈ PagedScan.firstRows (rollup.boundRows tenantId fromDate toDate) sizes :=
    fun row member => (same row).mpr ((dailyRows_iff daySizes).mpr member)
  have bound : ∀ row ∈ rollup.tenantRows tenantId fromDate toDate,
      row ∈ rollup.boundRows tenantId fromDate toDate := fun row member =>
    PagedScan.firstRows_subset _ _ (all row member)
  constructor
  · intro row held tenant last
    have member := rollup.mem_tenantRows_of_yesterday fromValid toValid ordered held tenant last
    exact ((rollup.mem_boundRows fromValid toValid ordered).mp (bound row member)).2 last
  · intro size first
    have fewer : (rollup.tenantRows tenantId fromDate toDate).length ≤
        (rollup.boundRows tenantId fromDate toDate).length :=
      ((rollup.nodup_rows.filter _).subperm bound).length_le
    refine fewer.trans ((PagedScan.subset_firstRows_iff
      (rollup.nodup_boundRows tenantId fromDate toDate) sizes).mp ?_ size first)
    intro row member
    exact all row ((rollup.mem_boundRows fromValid toValid ordered).mp member).1

/-- A query that reads all in one page agrees with the scans. -/
theorem Rollup.agrees_of_onePage (rollup : Rollup) (fromValid : fromDate.Valid)
    (toValid : toDate.Valid) (ordered : fromDate.Before toDate)
    (onePage : OnePage rollup sizes tenantId fromDate toDate) :
    QueryAgrees rollup.table sizes daySizes tenantId fromDate toDate := by
  have same : ∀ row, row ∈ rollup.boundRows tenantId fromDate toDate ↔
      row ∈ rollup.tenantRows tenantId fromDate toDate := by
    intro row
    rw [rollup.mem_boundRows fromValid toValid ordered]
    apply and_iff_left_of_imp
    intro member
    obtain ⟨held, kind⟩ := List.mem_filter.mp member
    exact onePage.services row held (of_decide_eq_true kind).1
  have distinct := rollup.nodup_boundRows tenantId fromDate toDate
  have count := ((List.perm_ext_iff_of_nodup distinct (rollup.nodup_rows.filter _)).mpr
    same).length_eq
  have whole := (PagedScan.subset_firstRows_iff distinct sizes).mpr fun size first =>
    count.trans_le (onePage.firstPage size first)
  refine ⟨_, rollup.queryWindow_eq sizes tenantId ordered, fun row => ?_⟩
  rw [dailyRows_iff, ← same]
  exact ⟨fun member => PagedScan.firstRows_subset _ _ member, fun member => whole member⟩

/-- A window that ends before it starts has no rows. -/
theorem Rollup.agrees_of_not_before (rollup : Rollup) (fromValid : fromDate.Valid)
    (toValid : toDate.Valid) (ordered : ¬ fromDate.Before toDate) :
    QueryAgrees rollup.table sizes daySizes tenantId fromDate toDate := by
  refine ⟨[], if_pos ordered, fun row => ?_⟩
  rw [dailyRows_iff]
  apply iff_of_false List.not_mem_nil
  intro member
  obtain ⟨held, kind⟩ := List.mem_filter.mp member
  obtain ⟨-, started, ended⟩ := of_decide_eq_true kind
  have valid := (Rollup.mem_rows_of held).1
  rw [Date.before_iff valid fromValid] at started
  rw [Date.before_iff valid toValid] at ended
  rw [Date.before_iff fromValid toValid] at ordered
  omega

/-- **The range query.** It returns what the daily scans find of the tenant if and only if the window
is empty, or the services of the last day are at most the sentinel and all rows fit in one page. -/
theorem Rollup.queryAgrees_iff (rollup : Rollup) (sizes : List ℕ) (daySizes : Date → List ℕ)
    (tenantId : String) (fromValid : fromDate.Valid) (toValid : toDate.Valid) :
    QueryAgrees rollup.table sizes daySizes tenantId fromDate toDate ↔
      (fromDate.Before toDate → OnePage rollup sizes tenantId fromDate toDate) := by
  by_cases ordered : fromDate.Before toDate
  · rw [forall_prop_of_true ordered]
    exact ⟨rollup.onePage_of_agrees fromValid toValid ordered,
      rollup.agrees_of_onePage fromValid toValid ordered⟩
  · exact iff_of_true (rollup.agrees_of_not_before fromValid toValid ordered) fun before =>
      absurd before ordered

/-- The rows of two services on one day. -/
def twoServices : Rollup where
  table := AList.insert ("t1", "2026-05-01#S3") ⟨some "2026-05-01", some "S3", 250⟩
    (AList.insert ("t1", "2026-05-01#EC2") ⟨some "2026-05-01", some "EC2", 100⟩ ∅)
  wellFormed key row held := by
    rcases Table.lookup_insert_cases held with ⟨rfl, rfl⟩ | ⟨-, held⟩
    · exact ⟨⟨2026, 5, 1⟩, "S3", by decide, by decide, by decide, by decide⟩
    · rcases Table.lookup_insert_cases held with ⟨rfl, rfl⟩ | ⟨-, held⟩
      · exact ⟨⟨2026, 5, 1⟩, "EC2", by decide, by decide, by decide, by decide⟩
      · cases held

/-- All rows in one page. -/
theorem twoServices_agrees :
    QueryAgrees twoServices.table [2] (fun _ => []) "t1" ⟨2026, 5, 1⟩ ⟨2026, 5, 2⟩ :=
  (twoServices.queryAgrees_iff [2] _ "t1" (by decide) (by decide)).mpr fun _ =>
    ⟨by decide, by decide⟩

/-- The store stops the first page after one row. -/
theorem twoServices_disagrees :
    ¬ QueryAgrees twoServices.table [1] (fun _ => []) "t1" ⟨2026, 5, 1⟩ ⟨2026, 5, 2⟩ := by
  intro agrees
  have onePage := twoServices.onePage_of_agrees (by decide) (by decide) (by decide) agrees
  have two : (twoServices.tenantRows "t1" ⟨2026, 5, 1⟩ ⟨2026, 5, 2⟩).length = 2 := by decide
  have short := onePage.firstPage 1 rfl
  omega

end Panakoes.CostApi
