import Panakoes.CostApi.TenantBreakdown

/-! # What the breakdown by tenant adds up to

The rows of the table are never negative, so a slice is at most its tenant and a tenant at most the
total, and no share is refused.
-/

namespace Panakoes.CostApi

/-- A breakdown of rows by tenant: who is listed, what the amounts are, and how the lists are sorted. -/
structure Aggregates (rows : List DailyRollupRow) (breakdown : TenantCostBreakdown) : Prop where
  tenants_nodup : (breakdown.tenants.map TenantCostRow.tenantId).Nodup
  mem_tenants : ∀ tenantId, tenantId ∈ breakdown.tenants.map TenantCostRow.tenantId ↔
    ∃ row ∈ rows, row.tenantId = tenantId
  services_nodup : ∀ tenant ∈ breakdown.tenants,
    (tenant.services.map ServiceCostBreakdown.service).Nodup
  mem_services : ∀ tenant ∈ breakdown.tenants, ∀ service,
    service ∈ tenant.services.map ServiceCostBreakdown.service ↔
      ∃ row ∈ rows, row.tenantId = tenant.tenantId ∧ row.service = service
  slice_cents : ∀ tenant ∈ breakdown.tenants, ∀ slice ∈ tenant.services,
    slice.costCents =
      centsOf rows fun row => row.tenantId = tenant.tenantId ∧ row.service = slice.service
  tenant_cents : ∀ tenant ∈ breakdown.tenants,
    tenant.costCents = (tenant.services.map ServiceCostBreakdown.costCents).sum
  total_tenants : breakdown.totalCents = (breakdown.tenants.map TenantCostRow.costCents).sum
  total_rows : breakdown.totalCents = (rows.map DailyRollupRow.costCents).sum
  tenants_sorted : breakdown.tenants.Pairwise fun first second =>
    second.costCents ≤ first.costCents
  services_sorted : ∀ tenant ∈ breakdown.tenants, tenant.services.Pairwise fun first second =>
    second.costCents ≤ first.costCents
  tenant_share : ∀ tenant ∈ breakdown.tenants,
    0 ≤ tenant.percentOfTotal ∧ tenant.percentOfTotal ≤ 100
  slice_share : ∀ tenant ∈ breakdown.tenants, ∀ slice ∈ tenant.services,
    0 ≤ slice.percentOfTenant ∧ slice.percentOfTenant ≤ 100

variable {α : Type} {floats : FloatRounding} {rows : List DailyRollupRow}

theorem sortByCents_perm (cents : α → ℤ) (items : List α) : (sortByCents cents items).Perm items :=
  List.perm_insertionSort _ items

theorem pairwise_sortByCents (cents : α → ℤ) (items : List α) :
    (sortByCents cents items).Pairwise fun first second => cents second ≤ cents first := by
  have : Std.Total fun first second : α => cents second ≤ cents first :=
    ⟨fun first second => le_total (cents second) (cents first)⟩
  have : IsTrans α fun first second => cents second ≤ cents first :=
    ⟨fun _ _ _ before after => after.trans before⟩
  exact List.pairwise_insertionSort _ items

/-- The slice that a service is shown as. -/
def shownSlice (floats : FloatRounding) (tenantCents : ℤ) (slice : String × ℤ) :
    ServiceCostBreakdown :=
  ⟨slice.1, slice.2, floats.roundTwo (floats.percent slice.2 tenantCents)⟩

/-- The row that a tenant is shown as. -/
def shownTenant (floats : FloatRounding) (rows : List DailyRollupRow) (totalCents : ℤ)
    (tenant : String × ℤ) : TenantCostRow :=
  ⟨tenant.1, tenant.1, tenant.2, floats.roundTwo (floats.percent tenant.2 totalCents),
    sortByCents ServiceCostBreakdown.costCents
      ((slicesOf rows tenant.1).map (shownSlice floats tenant.2))⟩

theorem checkShare_eq_ok {cents : ℤ} {percent : ℚ} (nonneg : 0 ≤ cents)
    (share : 0 ≤ percent ∧ percent ≤ 100) : checkShare cents percent = .ok () :=
  if_pos ⟨nonneg, share.1, share.2⟩

theorem serviceSlice_eq {whole : ℤ} {slice : String × ℤ} (nonneg : 0 ≤ slice.2)
    (within : slice.2 ≤ whole) :
    serviceSlice floats whole slice = .ok (shownSlice floats whole slice) := by
  unfold serviceSlice
  dsimp only
  rw [checkShare_eq_ok nonneg (FloatRounding.roundTwo_percent_mem nonneg within)]
  rfl

/-- An amount that is not negative is at most what it is added up to. -/
theorem snd_le_sum {items : List (String × ℤ)} (nonneg : ∀ item ∈ items, 0 ≤ item.2)
    {item : String × ℤ} (member : item ∈ items) : item.2 ≤ (items.map Prod.snd).sum := by
  apply List.single_le_sum
  · intro amount held
    obtain ⟨other, present, rfl⟩ := List.mem_map.mp held
    exact nonneg other present
  · exact List.mem_map_of_mem member

theorem slicesOf_nonneg (nonneg : ∀ row ∈ rows, 0 ≤ row.costCents) (tenantId : String) :
    ∀ slice ∈ slicesOf rows tenantId, 0 ≤ slice.2 := by
  intro slice member
  rw [(mem_perTenantService.mp (mem_slicesOf.mp member)).2]
  exact centsOf_nonneg nonneg _

theorem perTenant_nonneg (nonneg : ∀ row ∈ rows, 0 ≤ row.costCents) :
    ∀ tenant ∈ perTenant (perTenantService rows), 0 ≤ tenant.2 := by
  intro tenant member
  rw [(mem_perTenant.mp member).2]
  apply List.sum_nonneg
  intro amount held
  obtain ⟨slice, present, rfl⟩ := List.mem_map.mp held
  exact slicesOf_nonneg nonneg tenant.1 slice present

theorem slice_le_tenant (nonneg : ∀ row ∈ rows, 0 ≤ row.costCents) {tenant slice : String × ℤ}
    (member : tenant ∈ perTenant (perTenantService rows)) (held : slice ∈ slicesOf rows tenant.1) :
    slice.2 ≤ tenant.2 := by
  rw [(mem_perTenant.mp member).2]
  exact snd_le_sum (slicesOf_nonneg nonneg tenant.1) held

/-- No row of a tenant is refused. -/
theorem tenantRow_eq (nonneg : ∀ row ∈ rows, 0 ≤ row.costCents) {tenant : String × ℤ}
    (member : tenant ∈ perTenant (perTenantService rows)) :
    tenantRow floats ((perTenant (perTenantService rows)).map Prod.snd).sum
        (perTenantServices (perTenantService rows)) tenant =
      .ok (shownTenant floats rows ((perTenant (perTenantService rows)).map Prod.snd).sum
        tenant) := by
  have services : (Tally.get? tenant.1 (perTenantServices (perTenantService rows))).getD [] =
      slicesOf rows tenant.1 :=
    get?_perTenantServices (Tally.nodup_keys_tally _) tenant.1
  have slices : (slicesOf rows tenant.1).mapM (serviceSlice floats tenant.2) =
      .ok ((slicesOf rows tenant.1).map (shownSlice floats tenant.2)) := by
    apply PagedScan.mapM_eq_map
    intro slice held
    exact serviceSlice_eq (slicesOf_nonneg nonneg tenant.1 slice held)
      (slice_le_tenant nonneg member held)
  have tenantNonneg := perTenant_nonneg nonneg tenant member
  have least := snd_le_sum (perTenant_nonneg nonneg) member
  have share : 0 ≤ floats.roundTwo (floats.percent tenant.2 _) ∧
      floats.roundTwo (floats.percent tenant.2 _) ≤ 100 :=
    FloatRounding.roundTwo_percent_mem tenantNonneg least
  unfold tenantRow
  dsimp only
  rw [services, slices]
  change (checkShare _ _ >>= _) = _
  rw [checkShare_eq_ok tenantNonneg share]
  rfl

/-- The breakdown that rows are shown as. -/
def shownBreakdown (floats : FloatRounding) (window : DateRange) (rows : List DailyRollupRow) :
    TenantCostBreakdown :=
  let tenants := perTenant (perTenantService rows)
  let totalCents := (tenants.map Prod.snd).sum
  ⟨window.fromDate, window.toDate, "USD",
    sortByCents TenantCostRow.costCents (tenants.map (shownTenant floats rows totalCents)),
    totalCents, false⟩

variable {window : DateRange} {tenant : TenantCostRow} {slice : ServiceCostBreakdown}

/-- The tenants shown, in the order in which they are first met. -/
theorem tenants_perm (floats : FloatRounding) (window : DateRange)
    (rows : List DailyRollupRow) : (shownBreakdown floats window rows).tenants.Perm
    ((perTenant (perTenantService rows)).map
      (shownTenant floats rows (shownBreakdown floats window rows).totalCents)) :=
  sortByCents_perm _ _

theorem mem_tenants_shown (member : tenant ∈ (shownBreakdown floats window rows).tenants) :
    (tenant.tenantId, tenant.costCents) ∈ perTenant (perTenantService rows) ∧
      tenant = shownTenant floats rows (shownBreakdown floats window rows).totalCents
        (tenant.tenantId, tenant.costCents) := by
  obtain ⟨sum, held, rfl⟩ := List.mem_map.mp ((tenants_perm floats window rows).mem_iff.mp member)
  exact ⟨held, rfl⟩

/-- The services shown of a tenant, in the order in which they are first met. -/
theorem services_perm (member : tenant ∈ (shownBreakdown floats window rows).tenants) :
    tenant.services.Perm
      ((slicesOf rows tenant.tenantId).map (shownSlice floats tenant.costCents)) := by
  rw [(mem_tenants_shown member).2]
  exact sortByCents_perm _ _

theorem mem_services_shown (member : tenant ∈ (shownBreakdown floats window rows).tenants)
    (listed : slice ∈ tenant.services) :
    (slice.service, slice.costCents) ∈ slicesOf rows tenant.tenantId ∧
      slice = shownSlice floats tenant.costCents (slice.service, slice.costCents) := by
  obtain ⟨sum, held, rfl⟩ := List.mem_map.mp ((services_perm member).mem_iff.mp listed)
  exact ⟨held, rfl⟩

theorem ids_perm : ((shownBreakdown floats window rows).tenants.map TenantCostRow.tenantId).Perm
    ((perTenant (perTenantService rows)).map Prod.fst) := by
  have mapped := (tenants_perm floats window rows).map TenantCostRow.tenantId
  rwa [List.map_map] at mapped

theorem names_perm (member : tenant ∈ (shownBreakdown floats window rows).tenants) :
    (tenant.services.map ServiceCostBreakdown.service).Perm
      ((slicesOf rows tenant.tenantId).map Prod.fst) := by
  have mapped := (services_perm member).map ServiceCostBreakdown.service
  rwa [List.map_map] at mapped

/-- The cents of a tenant are those of its services. -/
theorem costCents_eq_sum (member : tenant ∈ (shownBreakdown floats window rows).tenants) :
    tenant.costCents = (tenant.services.map ServiceCostBreakdown.costCents).sum := by
  have mapped := (services_perm member).map ServiceCostBreakdown.costCents
  rw [List.map_map] at mapped
  rw [mapped.sum_eq]
  exact (mem_perTenant.mp (mem_tenants_shown member).1).2

theorem totalCents_eq_sum : (shownBreakdown floats window rows).totalCents =
    ((shownBreakdown floats window rows).tenants.map TenantCostRow.costCents).sum := by
  have mapped := (tenants_perm floats window rows).map TenantCostRow.costCents
  rw [List.map_map] at mapped
  rw [mapped.sum_eq]
  rfl

/-- What is shown of rows that are not negative is a breakdown of them. -/
theorem aggregates_shownBreakdown (nonneg : ∀ row ∈ rows, 0 ≤ row.costCents) :
    Aggregates rows (shownBreakdown floats window rows) where
  tenants_nodup := ids_perm.nodup_iff.mpr (Tally.nodup_keys_tally _)
  mem_tenants tenantId := by
    rw [ids_perm.mem_iff, List.mem_map]
    constructor
    · intro listed
      obtain ⟨sum, member, rfl⟩ := listed
      exact (mem_perTenant.mp member).1
    · intro present
      exact ⟨(tenantId, _), mem_perTenant.mpr ⟨present, rfl⟩, rfl⟩
  services_nodup tenant member :=
    (names_perm member).nodup_iff.mpr (nodup_slicesOf rows tenant.tenantId)
  mem_services tenant member service := by
    rw [(names_perm member).mem_iff, List.mem_map]
    constructor
    · intro listed
      obtain ⟨sum, held, rfl⟩ := listed
      exact (mem_perTenantService.mp (mem_slicesOf.mp held)).1
    · intro present
      exact ⟨(service, _), mem_slicesOf.mpr (mem_perTenantService.mpr ⟨present, rfl⟩), rfl⟩
  slice_cents tenant member slice listed :=
    (mem_perTenantService.mp (mem_slicesOf.mp (mem_services_shown member listed).1)).2
  tenant_cents _ member := costCents_eq_sum member
  total_tenants := totalCents_eq_sum
  total_rows := sum_perTenant rows
  tenants_sorted := pairwise_sortByCents _ _
  services_sorted tenant member := by
    rw [(mem_tenants_shown member).2]
    exact pairwise_sortByCents _ _
  tenant_share tenant member := by
    obtain ⟨held, same⟩ := mem_tenants_shown member
    rw [same]
    exact FloatRounding.roundTwo_percent_mem (perTenant_nonneg nonneg _ held)
      (snd_le_sum (perTenant_nonneg nonneg) held)
  slice_share tenant member slice listed := by
    obtain ⟨present, same⟩ := mem_services_shown member listed
    rw [same]
    exact FloatRounding.roundTwo_percent_mem (slicesOf_nonneg nonneg tenant.tenantId _ present)
      (slice_le_tenant nonneg (mem_tenants_shown member).1 present)

/-- A breakdown does not depend on the order of the rows. -/
theorem Aggregates.of_perm {other : List DailyRollupRow} {breakdown : TenantCostBreakdown}
    (aggregates : Aggregates rows breakdown) (perm : rows.Perm other) :
    Aggregates other breakdown := by
  have cents : ∀ kind, centsOf rows kind = centsOf other kind := fun kind =>
    ((perm.filter kind).map DailyRollupRow.costCents).sum_eq
  have present : ∀ kind : DailyRollupRow → Prop,
      (∃ row ∈ rows, kind row) ↔ ∃ row ∈ other, kind row := fun kind =>
    exists_congr fun row => and_congr_left' perm.mem_iff
  exact {
    aggregates with
    mem_tenants := fun tenantId => (aggregates.mem_tenants tenantId).trans (present _)
    mem_services := fun tenant member service =>
      (aggregates.mem_services tenant member service).trans (present _)
    slice_cents := fun tenant member slice listed =>
      (aggregates.slice_cents tenant member slice listed).trans (cents _)
    total_rows := aggregates.total_rows.trans (perm.map DailyRollupRow.costCents).sum_eq }

/-- The rows of a window are added up without an error. -/
theorem aggregateWindow_eq {table : RollupTable} {sizes : Date → List ℕ}
    (read : windowRows table sizes window = .ok rows) (nonneg : ∀ row ∈ rows, 0 ≤ row.costCents) :
    aggregateWindow floats table sizes window = .ok (shownBreakdown floats window rows) := by
  have tenants : (perTenant (perTenantService rows)).mapM
      (tenantRow floats ((perTenant (perTenantService rows)).map Prod.snd).sum
        (perTenantServices (perTenantService rows))) =
      .ok ((perTenant (perTenantService rows)).map
        (shownTenant floats rows ((perTenant (perTenantService rows)).map Prod.snd).sum)) := by
    apply PagedScan.mapM_eq_map
    intro tenant member
    exact tenantRow_eq nonneg member
  have total : ¬ ((perTenant (perTenantService rows)).map Prod.snd).sum < 0 := by
    apply not_lt.mpr
    apply List.sum_nonneg
    intro amount held
    obtain ⟨tenant, member, rfl⟩ := List.mem_map.mp held
    exact perTenant_nonneg nonneg tenant member
  have gathered : windowRows table sizes window = pure rows := read
  unfold aggregateWindow
  rw [gathered, pure_bind]
  dsimp only
  rw [tenants]
  exact if_neg total

/-- What the table answers for a window. -/
theorem Rollup.aggregateWindow_eq_shown (floats : FloatRounding) (rollup : Rollup)
    (sizes : Date → List ℕ) (window : DateRange) :
    ∃ rows, rows.Perm (rollup.rowsIn window) ∧ (∀ row ∈ rows, 0 ≤ row.costCents) ∧
      aggregateWindow floats rollup.table sizes window = .ok (shownBreakdown floats window rows) := by
  obtain ⟨rows, read, perm⟩ := rollup.windowRows_perm sizes window
  have nonneg : ∀ row ∈ rows, 0 ≤ row.costCents := by
    intro row member
    exact (Rollup.mem_rows_of (List.mem_of_mem_filter (perm.mem_iff.mp member))).2
  exact ⟨rows, perm, nonneg, aggregateWindow_eq read nonneg⟩

/-- **Conservation.** For every table, every window and all pages, the breakdown by tenant adds up the
rows of the window. -/
theorem Rollup.aggregates_rowsIn (floats : FloatRounding) (rollup : Rollup)
    (sizes : Date → List ℕ) (window : DateRange) :
    ∃ breakdown, aggregateWindow floats rollup.table sizes window = .ok breakdown ∧
      Aggregates (rollup.rowsIn window) breakdown := by
  obtain ⟨rows, perm, nonneg, answered⟩ := rollup.aggregateWindow_eq_shown floats sizes window
  exact ⟨shownBreakdown floats window rows, answered,
    (aggregates_shownBreakdown nonneg).of_perm perm⟩

end Panakoes.CostApi
