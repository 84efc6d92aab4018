import Panakoes.CostApi.WindowTotals

/-! # The breakdown by service

Cost Explorer answers in pages of buckets of groups. The first page is added up by service; a service
whose amounts add up to less than nothing is refused by its row. An amount is taken as the decimal
number that it is.
-/

namespace Panakoes.CostApi

/-! ## The answer of Cost Explorer -/

/-- `UnblendedCost`: its `Amount` and its `Unit`. -/
structure CostMetric where
  amount : Option ℚ
  unit : Option String

/-- An entry of `Groups`: its `Keys`, and of its `Metrics` the cost. -/
structure CostGroup where
  keys : Option (List String)
  unblendedCost : Option CostMetric

/-- An entry of `ResultsByTime`. -/
structure TimeBucket where
  groups : Option (List CostGroup)

/-- A response of `get_cost_and_usage`. -/
structure CostPage where
  resultsByTime : Option (List TimeBucket)

/-- The answer to a query: the first page, and those that its tokens lead to. -/
structure CostAnswer where
  first : CostPage
  further : List CostPage

/-- `CostByService`. -/
structure CostByService where
  service : String
  costCents : ℤ
  percentOfTotal : ℚ

/-- `CostBreakdown`, without the time of the query. -/
structure CostBreakdown where
  fromDate : Date
  toDate : Date
  currency : String
  services : List CostByService
  totalCents : ℤ
  cacheHit : Bool

/-- The groups of all buckets. -/
def CostPage.groups (page : CostPage) : List CostGroup :=
  (page.resultsByTime.getD []).flatMap fun bucket => bucket.groups.getD []

/-- `round(float(amount_str) * 100)`. -/
def CostGroup.cents (group : CostGroup) : ℤ :=
  Rounding.halfEven (((group.unblendedCost.bind CostMetric.amount).getD 0) * 100)

/-- The service of a group, its first key. -/
def CostGroup.service? (group : CostGroup) : Option String := (group.keys.getD []).head?

/-- `bucketed`, and the last unit seen. -/
structure Bucketed where
  cents : List (String × ℤ)
  currency : String

/-- A round of the loop over the groups. -/
def Bucketed.take (bucketed : Bucketed) (group : CostGroup) : Bucketed :=
  match group.service? with
  | none => bucketed
  | some service =>
      ⟨Tally.add bucketed.cents (service, group.cents),
        (group.unblendedCost.bind CostMetric.unit).getD bucketed.currency⟩

/-- The row of a service. -/
def serviceRow (floats : FloatRounding) (totalCents : ℤ) (entry : String × ℤ) :
    Except PyError CostByService := do
  let percent := floats.roundTwo (floats.percent entry.2 totalCents)
  checkShare entry.2 percent
  return ⟨entry.1, entry.2, percent⟩

/-- `_parse_response`. -/
def parseResponse (floats : FloatRounding) (page : CostPage) (window : DateRange) :
    Except PyError CostBreakdown := do
  let bucketed := page.groups.foldl Bucketed.take ⟨[], "USD"⟩
  let totalCents := (bucketed.cents.map Prod.snd).sum
  let rows ← bucketed.cents.mapM (serviceRow floats totalCents)
  if totalCents < 0 then .error .valueError
  else
    return ⟨window.fromDate, window.toDate, bucketed.currency,
      sortByCents CostByService.costCents rows, totalCents, false⟩

/-- `get_cost_by_service` on an answer. -/
def getCostByService (floats : FloatRounding) (answer : CostAnswer) (window : DateRange) :
    Except PyError CostBreakdown :=
  parseResponse floats answer.first window

/-! ## What is read -/

/-- The cents of the groups that have a service. -/
def costItems (groups : List CostGroup) : List (String × ℤ) :=
  groups.filterMap fun group => group.service?.map fun service => (service, group.cents)

/-- The groups of all pages. -/
def CostAnswer.groups (answer : CostAnswer) : List CostGroup :=
  answer.first.groups ++ answer.further.flatMap CostPage.groups

/-- The breakdown has each service of the answer once, and all cents of it. -/
def Completes (answer : CostAnswer) (breakdown : CostBreakdown) : Prop :=
  (breakdown.services.map CostByService.service).Nodup ∧
    (∀ service, service ∈ breakdown.services.map CostByService.service ↔
      ∃ group ∈ answer.groups, group.service? = some service) ∧
    breakdown.totalCents = (answer.groups.map CostGroup.cents).sum

/-- The first page has no service of less than nothing, and lacks nothing of the answer: no service,
and no cents in sum. -/
structure FirstPageSuffices (answer : CostAnswer) : Prop where
  nonneg : ∀ service, 0 ≤ Tally.sumOf service (costItems answer.first.groups)
  services : ∀ group ∈ answer.further.flatMap CostPage.groups, ∀ service ∈ group.service?,
    ∃ other ∈ answer.first.groups, other.service? = some service
  rest : ((answer.first.groups.filter fun group => group.service? = none).map CostGroup.cents).sum +
    ((answer.further.flatMap CostPage.groups).map CostGroup.cents).sum = 0

variable {floats : FloatRounding} {answer : CostAnswer} {groups : List CostGroup}

theorem foldl_take (groups : List CostGroup) :
    (groups.foldl Bucketed.take ⟨[], "USD"⟩).cents = Tally.tally (costItems groups) := by
  induction groups using List.reverseRecOn with
  | nil => rfl
  | append_singleton groups group ih =>
      rw [List.foldl_concat]
      unfold costItems at ih ⊢
      rw [List.filterMap_append, Bucketed.take]
      cases named : group.service? with
      | none =>
          simp only [List.filterMap_cons, named, Option.map_none, List.filterMap_nil,
            List.append_nil]
          exact ih
      | some service =>
          simp only [List.filterMap_cons, named, Option.map_some, List.filterMap_nil]
          rw [Tally.tally_concat, ← ih]

theorem mem_keys_costItems {service : String} :
    service ∈ (costItems groups).map Prod.fst ↔ ∃ group ∈ groups, group.service? = some service := by
  unfold costItems
  simp only [List.mem_map, List.mem_filterMap, Option.map_eq_some_iff]
  constructor
  · rintro ⟨item, ⟨group, member, name, named, rfl⟩, rfl⟩
    exact ⟨group, member, named⟩
  · rintro ⟨group, member, named⟩
    exact ⟨(service, group.cents), ⟨group, member, service, named, rfl⟩, rfl⟩

/-- The groups without a service are all that the items lack. -/
theorem sum_costItems (groups : List CostGroup) :
    ((costItems groups).map Prod.snd).sum +
        ((groups.filter fun group => group.service? = none).map CostGroup.cents).sum =
      (groups.map CostGroup.cents).sum := by
  induction groups with
  | nil => rfl
  | cons group groups ih =>
      rw [List.map_cons, List.sum_cons, ← ih]
      unfold costItems
      cases named : group.service? with
      | none =>
          simp only [List.filterMap_cons, List.filter_cons, named, Option.map_none,
            decide_true, if_true, List.map_cons, List.sum_cons]
          omega
      | some service =>
          simp only [List.filterMap_cons, List.filter_cons, named, Option.map_some, reduceCtorEq,
            decide_false, Bool.false_eq_true, if_false, List.map_cons, List.sum_cons]
          omega

/-- The row that a service is shown as. -/
def shownService (floats : FloatRounding) (totalCents : ℤ) (entry : String × ℤ) : CostByService :=
  ⟨entry.1, entry.2, floats.roundTwo (floats.percent entry.2 totalCents)⟩

theorem nonneg_of_serviceRow {totalCents : ℤ} {entry : String × ℤ}
    (accepted : (serviceRow floats totalCents entry).isOk = true) : 0 ≤ entry.2 := by
  unfold serviceRow checkShare at accepted
  dsimp only at accepted
  split at accepted
  · rename_i within
    exact within.1
  · cases accepted

theorem serviceRow_eq {totalCents : ℤ} {entry : String × ℤ} (nonneg : 0 ≤ entry.2)
    (within : entry.2 ≤ totalCents) :
    serviceRow floats totalCents entry = .ok (shownService floats totalCents entry) := by
  unfold serviceRow
  dsimp only
  rw [checkShare_eq_ok nonneg (FloatRounding.roundTwo_percent_mem nonneg within)]
  rfl

/-- The breakdown that a page is shown as. -/
def shownPage (floats : FloatRounding) (window : DateRange) (page : CostPage) : CostBreakdown :=
  let entries := Tally.tally (costItems page.groups)
  let totalCents := (entries.map Prod.snd).sum
  ⟨window.fromDate, window.toDate, (page.groups.foldl Bucketed.take ⟨[], "USD"⟩).currency,
    sortByCents CostByService.costCents (entries.map (shownService floats totalCents)),
    totalCents, false⟩

/-- A page is read if no service adds up to less than nothing. -/
theorem parseResponse_eq {page : CostPage} (window : DateRange)
    (nonneg : ∀ service, 0 ≤ Tally.sumOf service (costItems page.groups)) :
    parseResponse floats page window = .ok (shownPage floats window page) := by
  have each : ∀ entry ∈ Tally.tally (costItems page.groups), 0 ≤ entry.2 := by
    intro entry member
    rw [(Tally.mem_tally.mp member).2]
    exact nonneg entry.1
  have rows : (Tally.tally (costItems page.groups)).mapM
      (serviceRow floats ((Tally.tally (costItems page.groups)).map Prod.snd).sum) =
        .ok ((Tally.tally (costItems page.groups)).map
          (shownService floats ((Tally.tally (costItems page.groups)).map Prod.snd).sum)) := by
    apply PagedScan.mapM_eq_map
    intro entry member
    exact serviceRow_eq (each entry member) (snd_le_sum each member)
  have total : ¬ ((Tally.tally (costItems page.groups)).map Prod.snd).sum < 0 := by
    apply not_lt.mpr
    apply List.sum_nonneg
    intro cents held
    obtain ⟨entry, member, rfl⟩ := List.mem_map.mp held
    exact each entry member
  unfold parseResponse
  dsimp only
  rw [foldl_take, rows]
  exact if_neg total

/-- A page that is read has no service that adds up to less than nothing. -/
theorem nonneg_of_parseResponse {page : CostPage} {window : DateRange} {breakdown : CostBreakdown}
    (read : parseResponse floats page window = .ok breakdown) (service : String) :
    0 ≤ Tally.sumOf service (costItems page.groups) := by
  by_cases present : service ∈ (costItems page.groups).map Prod.fst
  · unfold parseResponse at read
    dsimp only at read
    rw [foldl_take] at read
    obtain ⟨rows, decoded, -⟩ := Except.bind_eq_ok.mp read
    have returned : ((Tally.tally (costItems page.groups)).mapM
        (serviceRow floats ((Tally.tally (costItems page.groups)).map Prod.snd).sum)).isOk = true := by
      rw [decoded]
      rfl
    exact nonneg_of_serviceRow (Except.isOk_mapM_iff.mp returned (service, _)
      (Tally.mem_tally.mpr ⟨present, rfl⟩))
  · have none : (costItems page.groups).filter (fun item => item.1 = service) = [] := by
      apply List.filter_eq_nil_iff.mpr
      intro item member same
      exact present (List.mem_map.mpr ⟨item, member, of_decide_eq_true same⟩)
    unfold Tally.sumOf
    rw [none]
    exact le_refl 0

theorem services_perm_page {page : CostPage} {window : DateRange} :
    ((shownPage floats window page).services.map CostByService.service).Perm
      ((Tally.tally (costItems page.groups)).map Prod.fst) := by
  have mapped := (sortByCents_perm CostByService.costCents
    ((Tally.tally (costItems page.groups)).map
      (shownService floats ((Tally.tally (costItems page.groups)).map Prod.snd).sum))).map
        CostByService.service
  rwa [List.map_map] at mapped

/-- What a page that is read shows is complete if the page lacks nothing. -/
theorem completes_shownPage_iff (window : DateRange) :
    Completes answer (shownPage floats window answer.first) ↔
      (∀ group ∈ answer.further.flatMap CostPage.groups, ∀ service ∈ group.service?,
        ∃ other ∈ answer.first.groups, other.service? = some service) ∧
      ((answer.first.groups.filter fun group => group.service? = none).map CostGroup.cents).sum +
        ((answer.further.flatMap CostPage.groups).map CostGroup.cents).sum = 0 := by
  have distinct : ((shownPage floats window answer.first).services.map
      CostByService.service).Nodup :=
    services_perm_page.nodup_iff.mpr (Tally.nodup_keys_tally _)
  have listed : ∀ service, service ∈ (shownPage floats window answer.first).services.map
      CostByService.service ↔ ∃ group ∈ answer.first.groups, group.service? = some service := by
    intro service
    rw [services_perm_page.mem_iff, Tally.mem_keys_tally, mem_keys_costItems]
  have total : (shownPage floats window answer.first).totalCents =
      ((costItems answer.first.groups).map Prod.snd).sum := Tally.sum_tally _
  unfold Completes
  rw [and_iff_right distinct, total]
  simp only [listed]
  unfold CostAnswer.groups
  rw [List.map_append, List.sum_append, ← sum_costItems answer.first.groups]
  apply and_congr
  · constructor
    · intro same group member service named
      exact (same service).mpr ⟨group, List.mem_append_right _ member, named⟩
    · intro within service
      constructor
      · rintro ⟨group, member, named⟩
        exact ⟨group, List.mem_append_left _ member, named⟩
      · rintro ⟨group, member, named⟩
        rcases List.mem_append.mp member with first | later
        · exact ⟨group, first, named⟩
        · exact within group later service named
  · omega

/-- A credit. -/
def credit : CostGroup := ⟨some ["Tax"], some ⟨some (-5), some "USD"⟩⟩

/-- An answer with a credit that nothing offsets. -/
def creditAnswer : CostAnswer := ⟨⟨some [⟨some [credit]⟩]⟩, []⟩

end Panakoes.CostApi
