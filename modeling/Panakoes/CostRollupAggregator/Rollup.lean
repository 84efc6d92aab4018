import Panakoes.CostRollupAggregator.Aggregator

/-! # The rows of a day after a run

A run puts rows and removes none, so rows of an earlier answer stay unless the later answer has
a group for each of them; and two groups of one row key leave one row.
-/

namespace Panakoes.CostRollupAggregator

open CostApi Table

variable {table fresh : RollupTable} {day : Date} {responses : List Response}

/-- The key of the row that a group is put under. -/
def rowKey (day : Date) (group : Group) : RollupKey :=
  (group.tenantId, makeDayServiceKey day group.service)

theorem putGroup_key {group : Group} {put : RollupKey × RollupRow}
    (accepted : putGroup day group = .ok put) : put.1 = rowKey day group := by
  obtain ⟨⟨tenantId, service, costCents⟩, parsed, accepted⟩ := Except.bind_eq_ok.mp accepted
  obtain ⟨cents, -, same⟩ := Except.bind_eq_ok.mp parsed
  have tenant : group.tenantId = tenantId := congrArg Prod.fst (Except.ok.inj same)
  have named : group.service = service := congrArg (fun parts => parts.2.1) (Except.ok.inj same)
  rw [rowKey, tenant, named]
  exact (putRollup_eq_ok accepted).1

/-! ## Running again -/

/-- Two tables have the same rows of the day. -/
def SameDay (day : Date) (first second : RollupTable) : Prop :=
  ∀ key, InDay day key → first.lookup key = second.lookup key

/-- The table after a run on one answer and then a run on another. -/
def rerun (table : RollupTable) (day : Date) (earlier later : List Response) : RollupTable :=
  (aggregateDay (aggregateDay table day earlier).1 day later).1

/-- **A second run converges on its answer exactly when it puts a row for each row of the day
that was there before it.** -/
theorem sameDay_rerun_iff (table : RollupTable) {fresh : RollupTable} {day : Date}
    (earlier later : List Response) (empty : EmptyDay fresh day) :
    SameDay day (rerun table day earlier later) (aggregateDay fresh day later).1 ↔
      ∀ key, InDay day key → (key ∈ table ∨ key ∈ (writes day earlier).map Prod.fst) →
        key ∈ (writes day later).map Prod.fst := by
  simp only [SameDay, rerun, table_aggregateDay]
  constructor
  · intro same key inDay before
    by_contra absent
    have stays := same key inDay
    rw [lookup_putAll_of_not_mem absent, lookup_putAll_of_not_mem absent, empty key inDay] at stays
    by_cases put : key ∈ (writes day earlier).map Prod.fst
    · obtain ⟨row, -, found⟩ := lookup_putAll_of_mem put
      rw [found] at stays
      cases stays
    · rw [lookup_putAll_of_not_mem put, AList.lookup_eq_none] at stays
      exact stays (before.resolve_right put)
  · intro covered key inDay
    by_cases put : key ∈ (writes day later).map Prod.fst
    · obtain ⟨row, -, found⟩ := lookup_putAll_of_mem put
      rw [found, found]
    · have before := mt (covered key inDay) put
      rw [not_or] at before
      rw [lookup_putAll_of_not_mem put, lookup_putAll_of_not_mem put,
        lookup_putAll_of_not_mem before.2, empty key inDay, AList.lookup_eq_none]
      exact before.1

/-- A day in May. -/
def sampleDay : Date := ⟨2026, 5, 8⟩

/-- An answer of one page. -/
def onePage (groups : List Group) : List Response := [⟨some [⟨some groups⟩], none⟩]

/-- A group with an amount. -/
def sampleGroup (tenantKey service amount : String) : Group :=
  ⟨some [tenantKey, service], some [("UnblendedCost", some amount)]⟩

theorem sameDay_rerun_iff_moved :
    SameDay sampleDay
        (rerun ∅ sampleDay (onePage [sampleGroup "tenant_id$a" "Amazon S3" "1.00"])
          (onePage [sampleGroup "tenant_id$a" "Amazon S3" "2.00"]))
        (aggregateDay ∅ sampleDay (onePage [sampleGroup "tenant_id$a" "Amazon S3" "2.00"])).1 ↔
      ∀ key, InDay sampleDay key →
        (key ∈ (∅ : RollupTable) ∨
          key ∈ (writes sampleDay
            (onePage [sampleGroup "tenant_id$a" "Amazon S3" "1.00"])).map Prod.fst) →
        key ∈ (writes sampleDay
          (onePage [sampleGroup "tenant_id$a" "Amazon S3" "2.00"])).map Prod.fst :=
  sameDay_rerun_iff ∅ _ _ fun key _ => AList.lookup_empty key

/-- Spend that moves from one tenant to another is kept under both. -/
theorem not_sameDay_moved :
    ¬ ∀ (table fresh : RollupTable) (day : Date) (earlier later : List Response),
      EmptyDay fresh day →
        SameDay day (rerun table day earlier later) (aggregateDay fresh day later).1 := by
  intro converges
  have same := converges ∅ ∅ sampleDay
    (onePage [sampleGroup "tenant_id$" "Amazon S3" "1.00"])
    (onePage [sampleGroup "tenant_id$a" "Amazon S3" "1.00"]) (fun key _ => AList.lookup_empty key)
    ("__untagged__", "2026-05-08#Amazon S3") (by decide)
  revert same
  decide +kernel

/-! ## Conservation -/

/-- The cents of a group. -/
def groupCents (group : Group) : ℤ :=
  match usdToCents group.amount with
  | .ok cents => cents
  | .error _ => 0

/-- The cost of a row, if it is one of the day. -/
def dayCost (day : Date) (key : RollupKey) (row : RollupRow) : ℤ :=
  if InDay day key then row.costCents else 0

/-- The cost of a row of the day, if it is one of the untagged tenant. -/
def untaggedCost (day : Date) (key : RollupKey) (row : RollupRow) : ℤ :=
  if InDay day key ∧ key.1 = untaggedTenantId then row.costCents else 0

/-- The rows of the day add up to the groups of the answer, and those of the untagged tenant to
what the summary says. -/
structure Conserves (table : RollupTable) (day : Date) (responses : List Response)
    (summary : AggregationSummary) : Prop where
  spent : ((queryAllTenantsForDay table day).map fun entry => entry.2.costCents).sum =
    ((allGroups responses).map groupCents).sum
  untagged : summary.untaggedCostCents =
    (((queryAllTenantsForDay table day).filter (·.1.1 = untaggedTenantId)).map
      fun entry => entry.2.costCents).sum

theorem sum_filter {α : Type*} (predicate : α → Prop) [DecidablePred predicate] (weight : α → ℤ)
    (items : List α) :
    ((items.filter (predicate ·)).map weight).sum =
      (items.map fun item => if predicate item then weight item else 0).sum := by
  induction items with
  | nil => rfl
  | cons item rest ih =>
      by_cases holds : predicate item
      · simp [holds, ih]
      · simp [holds, ih]

theorem sum_queryAllTenantsForDay :
    ((queryAllTenantsForDay table day).map fun entry => entry.2.costCents).sum =
      total table (dayCost day) :=
  sum_filter (fun entry : Sigma fun _ : RollupKey => RollupRow => InDay day entry.1) _ _

theorem sum_untagged :
    (((queryAllTenantsForDay table day).filter (·.1.1 = untaggedTenantId)).map
      fun entry => entry.2.costCents).sum = total table (untaggedCost day) := by
  change _ = (table.entries.map fun entry =>
    if InDay day entry.1 ∧ entry.1.1 = untaggedTenantId then entry.2.costCents else 0).sum
  unfold queryAllTenantsForDay
  rw [List.filter_filter]
  have both := sum_filter (fun entry : Sigma fun _ : RollupKey => RollupRow =>
    InDay day entry.1 ∧ entry.1.1 = untaggedTenantId) (fun entry => entry.2.costCents) table.entries
  simp only [Bool.decide_and] at both
  simpa only [Bool.and_comm] using both

/-- The puts of groups of which none raises cost what the groups cost. -/
theorem sum_putsOf {groups : List Group} (sound : Sound day groups) :
    ((putsOf day groups).map fun put => dayCost day put.1 put.2).sum =
      (groups.map groupCents).sum := by
  induction groups with
  | nil => rfl
  | cons group rest ih =>
      obtain ⟨put, accepted⟩ := sound group List.mem_cons_self
      obtain ⟨inDay, cents, -⟩ := putGroup_eq_ok accepted
      have later := ih ((sound_cons_of_ok accepted).mp sound)
      rw [putsOf_of_ok accepted, List.map_cons, List.map_cons, List.sum_cons, List.sum_cons, later,
        dayCost, if_pos inDay, groupCents, cents]

theorem sum_untaggedWrites :
    ((writes day responses).map fun put => untaggedCost day put.1 put.2).sum =
      untaggedCents (writes day responses) := by
  refine congrArg List.sum (List.map_congr_left fun put member => ?_)
  have inDay : InDay day put.1 := inDay_of_mem_writes member
  simp only [untaggedCost, inDay, true_and]

/-- What is lost to later groups must make up for what is left over. -/
theorem spent_iff (sound : Sound day (allGroups responses)) :
    ((queryAllTenantsForDay (aggregateDay table day responses).1 day).map
        fun entry => entry.2.costCents).sum = ((allGroups responses).map groupCents).sum ↔
      overwritten (dayCost day) (writes day responses) =
        leftover table (dayCost day) (writes day responses) := by
  have all := total_putAll table (dayCost day) (writes day responses)
  have put : ((writes day responses).map fun put => dayCost day put.1 put.2).sum =
      ((allGroups responses).map groupCents).sum := sum_putsOf sound
  rw [sum_queryAllTenantsForDay, table_aggregateDay, ← put]
  constructor <;> omega

theorem untagged_iff :
    untaggedCents (writes day responses) =
        (((queryAllTenantsForDay (aggregateDay table day responses).1 day).filter
          (·.1.1 = untaggedTenantId)).map fun entry => entry.2.costCents).sum ↔
      overwritten (untaggedCost day) (writes day responses) =
        leftover table (untaggedCost day) (writes day responses) := by
  have all := total_putAll table (untaggedCost day) (writes day responses)
  rw [sum_untagged, table_aggregateDay, ← sum_untaggedWrites]
  constructor <;> omega

/-- **The rows of the day add up to the answer, as a whole and for the untagged tenant, exactly
when the groups whose row a later group overwrites cost what the rows cost that no group
rewrites, again as a whole and for the untagged tenant.** -/
theorem conserves_iff {table : RollupTable} {day : Date} {responses : List Response}
    {summary : AggregationSummary} (completed : (aggregateDay table day responses).2 = .ok summary) :
    Conserves (aggregateDay table day responses).1 day responses summary ↔
      overwritten (dayCost day) (writes day responses) =
          leftover table (dayCost day) (writes day responses) ∧
        overwritten (untaggedCost day) (writes day responses) =
          leftover table (untaggedCost day) (writes day responses) := by
  obtain ⟨sound, summed⟩ := aggregateDay_eq_ok completed
  rw [← spent_iff sound, ← untagged_iff, ← summed]
  exact ⟨fun conserves => ⟨conserves.spent, conserves.untagged⟩, fun both => ⟨both.1, both.2⟩⟩

/-- Two groups with different keys: the spend without a tenant, and that of a tenant with the
name that such spend is stored under. -/
def collidingGroups : List Group :=
  [sampleGroup "tenant_id$" "Amazon S3" "1.00",
    sampleGroup "tenant_id$__untagged__" "Amazon S3" "0.50"]

/-- What the run on them returns. -/
def collidingSummary : AggregationSummary := ⟨sampleDay, 1, 2, 150, 1⟩

theorem completed_colliding :
    (aggregateDay ∅ sampleDay (onePage collidingGroups)).2 = .ok collidingSummary := by
  decide +kernel

theorem conserves_iff_colliding :
    (aggregateDay ∅ sampleDay (onePage collidingGroups)).2 = .ok collidingSummary ∧
      (Conserves (aggregateDay ∅ sampleDay (onePage collidingGroups)).1 sampleDay
          (onePage collidingGroups) collidingSummary ↔
        overwritten (dayCost sampleDay) (writes sampleDay (onePage collidingGroups)) =
            leftover ∅ (dayCost sampleDay) (writes sampleDay (onePage collidingGroups)) ∧
          overwritten (untaggedCost sampleDay) (writes sampleDay (onePage collidingGroups)) =
            leftover ∅ (untaggedCost sampleDay) (writes sampleDay (onePage collidingGroups))) :=
  ⟨completed_colliding, conserves_iff completed_colliding⟩

/-- One row is left of them, and the spend of the first is lost. -/
theorem not_conserves_colliding :
    ¬ ∀ (table : RollupTable) (day : Date) (responses : List Response)
      (summary : AggregationSummary),
      (aggregateDay table day responses).2 = .ok summary →
        ((allGroups responses).map Group.keys).Nodup →
          Conserves (aggregateDay table day responses).1 day responses summary := by
  intro conserves
  have spent := (conserves ∅ sampleDay (onePage collidingGroups) collidingSummary
    completed_colliding (by decide)).spent
  revert spent
  decide +kernel

/-! ## Conservation on an empty day -/

/-- The puts of groups of which none raises have the row keys of the groups. -/
theorem map_fst_putsOf {groups : List Group} (sound : Sound day groups) :
    (putsOf day groups).map Prod.fst = groups.map (rowKey day) := by
  induction groups with
  | nil => rfl
  | cons group rest ih =>
      obtain ⟨put, accepted⟩ := sound group List.mem_cons_self
      have later := ih ((sound_cons_of_ok accepted).mp sound)
      rw [putsOf_of_ok accepted, List.map_cons, List.map_cons, later, putGroup_key accepted]

/-- What is put for a group of the day costs something or nothing. -/
theorem dayCost_nonneg {groups : List Group} {put : RollupKey × RollupRow}
    (member : put ∈ putsOf day groups) : 0 ≤ dayCost day put.1 put.2 := by
  obtain ⟨group, -, accepted⟩ := exists_of_mem_putsOf member
  obtain ⟨inDay, -, nonneg⟩ := putGroup_eq_ok accepted
  rw [dayCost, if_pos inDay]
  exact nonneg

/-- Nothing is lost when every group whose row key comes again costs nothing. -/
theorem overwritten_putsOf_eq_zero_iff {groups : List Group} (sound : Sound day groups) :
    overwritten (dayCost day) (putsOf day groups) = 0 ↔
      groups.Pairwise fun earlier later =>
        rowKey day earlier = rowKey day later → groupCents earlier = 0 := by
  induction groups with
  | nil => exact iff_of_true rfl List.Pairwise.nil
  | cons group rest ih =>
      obtain ⟨put, accepted⟩ := sound group List.mem_cons_self
      obtain ⟨inDay, cents, nonneg⟩ := putGroup_eq_ok accepted
      have later : Sound day rest := (sound_cons_of_ok accepted).mp sound
      have cost : dayCost day put.1 put.2 = groupCents group := by
        rw [dayCost, if_pos inDay, groupCents, cents]
      have rest_nonneg : 0 ≤ overwritten (dayCost day) (putsOf day rest) :=
        overwritten_nonneg fun _ => dayCost_nonneg
      have group_nonneg : 0 ≤ groupCents group := by
        rw [groupCents, cents]
        exact nonneg
      rw [putsOf_of_ok accepted, overwritten, map_fst_putsOf later, cost, putGroup_key accepted,
        List.pairwise_cons, ← ih later]
      by_cases again : rowKey day group ∈ rest.map (rowKey day)
      · rw [if_pos again]
        obtain ⟨other, member, same⟩ := List.mem_map.mp again
        constructor
        · intro zero
          exact ⟨fun _ _ _ => by omega, by omega⟩
        · rintro ⟨free, zero⟩
          rw [free other member same.symm, zero, Int.zero_add]
      · rw [if_neg again, Int.zero_add]
        refine ⟨fun zero => ⟨fun other member same => ?_, zero⟩, And.right⟩
        exact absurd (List.mem_map.mpr ⟨other, member, same.symm⟩) again

/-- An empty day has nothing left over. -/
theorem leftover_of_emptyDay (empty : EmptyDay table day) {weight : RollupKey → RollupRow → ℤ}
    (weighs : ∀ key row, ¬ InDay day key → weight key row = 0)
    (puts : List (RollupKey × RollupRow)) : leftover table weight puts = 0 := by
  refine List.sum_eq_zero fun cost member => ?_
  obtain ⟨entry, present, rfl⟩ := List.mem_map.mp member
  have outside : ¬ InDay day entry.1 := by
    intro inDay
    have held := AList.mem_lookup_iff.mpr present
    rw [empty entry.1 inDay] at held
    cases held
  simp only [weighs entry.1 entry.2 outside, ite_self]

/-- What is lost of the untagged tenant is lost of the day. -/
theorem overwritten_untagged_eq_zero {groups : List Group}
    (zero : overwritten (dayCost day) (putsOf day groups) = 0) :
    overwritten (untaggedCost day) (putsOf day groups) = 0 := by
  have part : ∀ put ∈ putsOf day groups,
      0 ≤ untaggedCost day put.1 put.2 ∧
        untaggedCost day put.1 put.2 ≤ dayCost day put.1 put.2 := by
    intro put member
    have nonneg := dayCost_nonneg member
    unfold untaggedCost
    split
    · rename_i both
      rw [dayCost, if_pos both.1] at nonneg ⊢
      exact ⟨nonneg, le_rfl⟩
    · exact ⟨le_rfl, nonneg⟩
  refine le_antisymm ?_ (overwritten_nonneg fun put member => (part put member).1)
  rw [← zero]
  exact overwritten_mono fun put member => (part put member).2

/-- On an empty day, conservation fails only where a group with a cost has the row key of a
later group. -/
theorem conserves_iff_of_emptyDay {summary : AggregationSummary} (empty : EmptyDay table day)
    (completed : (aggregateDay table day responses).2 = .ok summary) :
    Conserves (aggregateDay table day responses).1 day responses summary ↔
      (allGroups responses).Pairwise fun earlier later =>
        rowKey day earlier = rowKey day later → groupCents earlier = 0 := by
  obtain ⟨sound, summed⟩ := aggregateDay_eq_ok completed
  have day_left : leftover table (dayCost day) (writes day responses) = 0 :=
    leftover_of_emptyDay empty (fun _ _ outside => if_neg outside) _
  have untagged_left : leftover table (untaggedCost day) (writes day responses) = 0 :=
    leftover_of_emptyDay empty (fun _ _ outside => if_neg fun both => outside both.1) _
  rw [← overwritten_putsOf_eq_zero_iff sound]
  constructor
  · intro conserves
    exact ((spent_iff sound).mp conserves.spent).trans day_left
  · intro zero
    refine ⟨(spent_iff sound).mpr (zero.trans day_left.symm), ?_⟩
    rw [summed]
    exact untagged_iff.mpr ((overwritten_untagged_eq_zero zero).trans untagged_left.symm)

end Panakoes.CostRollupAggregator
