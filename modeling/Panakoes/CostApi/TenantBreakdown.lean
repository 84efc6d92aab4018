import Mathlib.Algebra.Order.BigOperators.Group.List
import Panakoes.CostApi.RollupStore
import Panakoes.Foundation.Rounding
import Panakoes.Foundation.Tally

/-! # The breakdown by tenant

The rows of the days of a window are added up by tenant and service, and these sums by tenant. What
is added up is kept at every level, whatever the order of the rows. Floats are rounded by a parameter.
-/

namespace Panakoes.CostApi

/-- `ServiceCostBreakdown`. -/
structure ServiceCostBreakdown where
  service : String
  costCents : ℤ
  percentOfTenant : ℚ

/-- `TenantCostRow`. -/
structure TenantCostRow where
  tenantId : String
  displayName : String
  costCents : ℤ
  percentOfTotal : ℚ
  services : List ServiceCostBreakdown

/-- `TenantCostBreakdown`, without the time of the query. -/
structure TenantCostBreakdown where
  fromDate : Date
  toDate : Date
  currency : String
  tenants : List TenantCostRow
  totalCents : ℤ
  cacheHit : Bool

/-- The constraints on the amount and the share of a row. -/
def checkShare (cents : ℤ) (percent : ℚ) : Except PyError Unit :=
  if 0 ≤ cents ∧ 0 ≤ percent ∧ percent ≤ 100 then .ok () else .error .valueError

/-- `sort(key=lambda row: row.cost_cents, reverse=True)`. -/
def sortByCents {α : Type} (cents : α → ℤ) (rows : List α) : List α :=
  rows.insertionSort fun first second => cents second ≤ cents first

/-- The rows of the days of a window, when the store stops the pages of the scan of each day after so
many rows. -/
def windowRows (table : RollupTable) (sizes : Date → List ℕ) (window : DateRange) :
    Except PyError (List DailyRollupRow) := do
  let days ← window.days.mapM fun day => tenantsForDay table (sizes day) day
  return days.flatten

/-- `per_tenant_service`. -/
def perTenantService (rows : List DailyRollupRow) : List ((String × String) × ℤ) :=
  Tally.tally (rows.map fun row => ((row.tenantId, row.service), row.costCents))

/-- `per_tenant`. -/
def perTenant (slices : List ((String × String) × ℤ)) : List (String × ℤ) :=
  Tally.tally (slices.map fun slice => (slice.1.1, slice.2))

/-- `per_tenant_services`. -/
def perTenantServices (slices : List ((String × String) × ℤ)) : List (String × List (String × ℤ)) :=
  slices.foldl (fun services slice =>
    Tally.set slice.1.1
      (Tally.set slice.1.2 slice.2 ((Tally.get? slice.1.1 services).getD [])) services) []

/-- The slice of a service. -/
def serviceSlice (floats : FloatRounding) (tenantCents : ℤ) (slice : String × ℤ) :
    Except PyError ServiceCostBreakdown := do
  let percent := floats.roundTwo (floats.percent slice.2 tenantCents)
  checkShare slice.2 percent
  return ⟨slice.1, slice.2, percent⟩

/-- The row of a tenant. -/
def tenantRow (floats : FloatRounding) (totalCents : ℤ)
    (services : List (String × List (String × ℤ))) (tenant : String × ℤ) :
    Except PyError TenantCostRow := do
  let percent := floats.roundTwo (floats.percent tenant.2 totalCents)
  let slices ← ((Tally.get? tenant.1 services).getD []).mapM (serviceSlice floats tenant.2)
  checkShare tenant.2 percent
  return ⟨tenant.1, tenant.1, tenant.2, percent, sortByCents ServiceCostBreakdown.costCents slices⟩

/-- `_aggregate_window`. -/
def aggregateWindow (floats : FloatRounding) (table : RollupTable) (sizes : Date → List ℕ)
    (window : DateRange) : Except PyError TenantCostBreakdown := do
  let rows ← windowRows table sizes window
  let slices := perTenantService rows
  let tenants := perTenant slices
  let totalCents := (tenants.map Prod.snd).sum
  let tenantRows ← tenants.mapM (tenantRow floats totalCents (perTenantServices slices))
  if totalCents < 0 then .error .valueError
  else
    return ⟨window.fromDate, window.toDate, "USD", sortByCents TenantCostRow.costCents tenantRows,
      totalCents, false⟩

/-! ## The rows of a window -/

/-- The rows of the table with `from <= day < to`. -/
def Rollup.rowsIn (rollup : Rollup) (window : DateRange) : List DailyRollupRow :=
  rollup.rows.filter fun row => window.Contains row.day

/-- The walk over the days reads the rows of the window, each one once. -/
theorem Rollup.windowRows_perm (rollup : Rollup) (sizes : Date → List ℕ) (window : DateRange) :
    ∃ rows, windowRows rollup.table sizes window = .ok rows ∧ rows.Perm (rollup.rowsIn window) := by
  have days : window.days.mapM (fun day => tenantsForDay rollup.table (sizes day) day) =
      .ok (window.days.map fun day => rollup.rows.filter fun row => row.day = day) := by
    apply PagedScan.mapM_eq_map
    intro day member
    rw [rollup.tenantsForDay_eq, rollup.rows_of_day (DateRange.mem_days.mp member).1]
  refine ⟨window.days.flatMap fun day => rollup.rows.filter fun row => row.day = day, ?_, ?_⟩
  · unfold windowRows
    rw [days, List.flatMap_def]
    rfl
  · refine (Tally.flatMap_filter_perm DailyRollupRow.day window.nodup_days rollup.rows).trans ?_
    apply List.Perm.of_eq
    apply List.filter_congr
    intro row member
    rw [decide_eq_decide, DateRange.mem_days]
    exact and_iff_right (Rollup.mem_rows_of member).1

/-! ## The sums -/

/-- The cents of the rows of a kind. -/
def centsOf (rows : List DailyRollupRow) (kind : DailyRollupRow → Bool) : ℤ :=
  ((rows.filter kind).map DailyRollupRow.costCents).sum

variable {rows : List DailyRollupRow} {tenantId service : String} {cents : ℤ}

theorem mem_perTenantService :
    ((tenantId, service), cents) ∈ perTenantService rows ↔
      (∃ row ∈ rows, row.tenantId = tenantId ∧ row.service = service) ∧
        cents = centsOf rows fun row => row.tenantId = tenantId ∧ row.service = service := by
  unfold perTenantService
  rw [Tally.mem_tally]
  apply and_congr
  · simp only [List.map_map, List.mem_map, Function.comp_apply, Prod.mk.injEq]
  · unfold Tally.sumOf centsOf
    rw [List.filter_map, List.map_map]
    simp only [Function.comp_def, Prod.mk.injEq]

/-- The slices of a tenant. -/
def slicesOf (rows : List DailyRollupRow) (tenantId : String) : List (String × ℤ) :=
  ((perTenantService rows).filter fun slice => slice.1.1 = tenantId).map fun slice =>
    (slice.1.2, slice.2)

theorem mem_slicesOf :
    (service, cents) ∈ slicesOf rows tenantId ↔
      ((tenantId, service), cents) ∈ perTenantService rows := by
  unfold slicesOf
  simp only [List.mem_map, List.mem_filter, decide_eq_true_eq, Prod.mk.injEq, Prod.exists]
  constructor
  · rintro ⟨tenant, name, amount, ⟨member, rfl⟩, rfl, rfl⟩
    exact member
  · intro member
    exact ⟨tenantId, service, cents, ⟨member, rfl⟩, rfl, rfl⟩

theorem nodup_slicesOf (rows : List DailyRollupRow) (tenantId : String) :
    ((slicesOf rows tenantId).map Prod.fst).Nodup := by
  have distinct : (((perTenantService rows).filter fun slice => slice.1.1 = tenantId).map
      Prod.fst).Nodup :=
    (Tally.nodup_keys_tally _).sublist (List.filter_sublist.map Prod.fst)
  unfold slicesOf
  rw [List.map_map]
  refine List.Nodup.map_on ?_ (List.Nodup.of_map Prod.fst distinct)
  intro first firstMember second secondMember same
  have firstTenant := of_decide_eq_true (List.mem_filter.mp firstMember).2
  have secondTenant := of_decide_eq_true (List.mem_filter.mp secondMember).2
  have keys : first.1 = second.1 := Prod.ext (firstTenant.trans secondTenant.symm) same
  exact List.inj_on_of_nodup_map distinct firstMember secondMember keys

/-- The dictionary of services holds the slices of each tenant. -/
theorem get?_perTenantServices {slices : List ((String × String) × ℤ)}
    (distinct : (slices.map Prod.fst).Nodup) (tenantId : String) :
    (Tally.get? tenantId (perTenantServices slices)).getD [] =
      (slices.filter fun slice => slice.1.1 = tenantId).map fun slice => (slice.1.2, slice.2) := by
  induction slices using List.reverseRecOn generalizing tenantId with
  | nil => rfl
  | append_singleton slices slice ih =>
      rw [List.map_append, List.map_singleton] at distinct
      obtain ⟨earlier, -, apart⟩ := List.nodup_append.mp distinct
      have held := ih earlier
      unfold perTenantServices at held ⊢
      rw [List.foldl_concat, List.filter_append, List.map_append]
      by_cases same : slice.1.1 = tenantId
      · subst same
        rw [Tally.get?_set_self, Option.getD_some, held, Tally.set_of_not_mem]
        · simp
        · intro member
          simp only [List.map_map, List.mem_map, List.mem_filter, decide_eq_true_eq,
            Function.comp_apply] at member
          obtain ⟨other, ⟨present, sameTenant⟩, sameService⟩ := member
          exact apart other.1 (List.mem_map_of_mem present) slice.1 (List.mem_singleton_self _)
            (Prod.ext sameTenant sameService)
      · rw [Tally.get?_set_of_ne (Ne.symm same), held]
        simp [same]

theorem mem_perTenant :
    (tenantId, cents) ∈ perTenant (perTenantService rows) ↔
      (∃ row ∈ rows, row.tenantId = tenantId) ∧
        cents = ((slicesOf rows tenantId).map Prod.snd).sum := by
  unfold perTenant
  rw [Tally.mem_tally]
  apply and_congr
  · rw [List.map_map]
    constructor
    · intro member
      obtain ⟨⟨⟨tenant, service⟩, amount⟩, present, rfl⟩ := List.mem_map.mp member
      obtain ⟨⟨row, held, sameTenant, -⟩, -⟩ := mem_perTenantService.mp present
      exact ⟨row, held, sameTenant⟩
    · rintro ⟨row, held, rfl⟩
      exact List.mem_map.mpr ⟨((row.tenantId, row.service), _),
        mem_perTenantService.mpr ⟨⟨row, held, rfl, rfl⟩, rfl⟩, rfl⟩
  · unfold Tally.sumOf slicesOf
    rw [List.filter_map, List.map_map, List.map_map]
    rfl

/-- The tenants add up to all the rows. -/
theorem sum_perTenant (rows : List DailyRollupRow) :
    ((perTenant (perTenantService rows)).map Prod.snd).sum =
      (rows.map DailyRollupRow.costCents).sum := by
  unfold perTenant
  rw [Tally.sum_tally, List.map_map]
  have slices := Tally.sum_tally
    (rows.map fun row => ((row.tenantId, row.service), row.costCents))
  rw [List.map_map] at slices
  exact slices

theorem centsOf_nonneg (nonneg : ∀ row ∈ rows, 0 ≤ row.costCents) (kind : DailyRollupRow → Bool) :
    0 ≤ centsOf rows kind := by
  apply List.sum_nonneg
  intro amount member
  obtain ⟨row, held, rfl⟩ := List.mem_map.mp member
  exact nonneg row (List.mem_of_mem_filter held)

end Panakoes.CostApi
