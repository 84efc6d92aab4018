import Panakoes.CostApi.RollupStore
import Panakoes.Foundation.PyDecimal
import Panakoes.Foundation.Table

/-! # The cost rollup aggregator

One run reads the answer of Cost Explorer for a day, page by page, and puts a row for each
group. A run that raises leaves the rows it has put. Its writes are the puts of the groups
before the first that raises, and all it does to the table.
-/

namespace Panakoes.CostRollupAggregator

open CostApi

/-! ## The answer of Cost Explorer -/

/-- A `Group`: its `Keys`, and for each of its `Metrics` the `Amount`. -/
structure Group where
  keys : Option (List String)
  metrics : Option (List (String × Option String))

/-- An entry of `ResultsByTime`: its `Groups`. -/
structure ResultByTime where
  groups : Option (List Group)

/-- A response of `get_cost_and_usage`. -/
structure Response where
  resultsByTime : Option (List ResultByTime)
  nextPageToken : Option String

/-- `_iter_groups`. -/
def iterGroups (response : Response) : List Group :=
  match response.resultsByTime.getD [] with
  | [] => []
  | first :: _ => first.groups.getD []

/-- `UNTAGGED_TENANT_ID`. -/
def untaggedTenantId : String := "__untagged__"

/-- `UNKNOWN_SERVICE`. -/
def unknownService : String := "__unknown__"

/-- `_usd_to_cents`, or the error of the decimal arithmetic. -/
def usdToCents (amount : String) : Except PyError ℤ :=
  match PyDecimal.parse amount with
  | none => .ok 0
  | some (.finite negative coefficient exponent) =>
      match PyDecimal.scaledToInt coefficient 100 exponent with
      | none => .error .other
      | some cents => .ok (if negative then 0 else cents)
  | some _ => .error .other

/-- What follows the first `$`, as `partition("$")` returns it. -/
def tagValue (text : String) : String := String.ofList ((text.toList.dropWhile (· ≠ '$')).drop 1)

/-- The tenant of a group. -/
def Group.tenantId (group : Group) : String :=
  let value := tagValue (((group.keys.getD [])[0]?).getD "")
  if value = "" then untaggedTenantId else value

/-- The service of a group. -/
def Group.service (group : Group) : String :=
  let raw := ((group.keys.getD [])[1]?).getD ""
  if raw = "" then unknownService else raw

/-- The amount of a group. -/
def Group.amount (group : Group) : String :=
  ((((group.metrics.getD []).lookup "UnblendedCost").getD none)).getD "0"

/-- `_parse_group`. -/
def parseGroup (group : Group) : Except PyError (String × String × ℤ) := do
  let costCents ← usdToCents group.amount
  return (group.tenantId, group.service, costCents)

/-! ## A run -/

/-- What a run has done so far. -/
structure Progress where
  table : RollupTable
  rowsWritten : ℕ
  tenantsSeen : List String
  untaggedCostCents : ℤ
  ceCalls : ℕ

/-- The put of a group, or what it raises. -/
def putGroup (day : Date) (group : Group) : Except PyError (RollupKey × RollupRow) := do
  let (tenantId, service, costCents) ← parseGroup group
  putRollup tenantId day service costCents

/-- A row is put. -/
def Progress.wrote (progress : Progress) (put : RollupKey × RollupRow) : Progress where
  table := progress.table.insert put.1 put.2
  rowsWritten := progress.rowsWritten + 1
  tenantsSeen := progress.tenantsSeen.insert put.1.1
  untaggedCostCents :=
    progress.untaggedCostCents + if put.1.1 = untaggedTenantId then put.2.costCents else 0
  ceCalls := progress.ceCalls

/-- The groups of a page, up to the first that raises. -/
def processGroups (day : Date) (progress : Progress) : List Group → Progress × Option PyError
  | [] => (progress, none)
  | group :: rest =>
      match putGroup day group with
      | .error error => (progress, some error)
      | .ok put => processGroups day (progress.wrote put) rest

/-- The loop over the pages. `responses` are those that the calls return; a call beyond them
raises. -/
def processPages (day : Date) (progress : Progress) : List Response → Progress × Option PyError
  | [] => (progress, some .clientError)
  | response :: rest =>
      match processGroups day { progress with ceCalls := progress.ceCalls + 1 }
        (iterGroups response) with
      | (progress, some error) => (progress, some error)
      | (progress, none) =>
          if (response.nextPageToken.getD "") = "" then (progress, none)
          else processPages day progress rest

/-- `AggregationSummary`, without the duration. -/
structure AggregationSummary where
  day : Date
  tenantsWritten : ℕ
  rowsWritten : ℕ
  untaggedCostCents : ℤ
  ceCalls : ℕ
  deriving DecidableEq

/-- `aggregate_day`: the table it leaves, and what it returns or raises. -/
def aggregateDay (table : RollupTable) (day : Date) (responses : List Response) :
    RollupTable × Except PyError AggregationSummary :=
  match processPages day ⟨table, 0, [], 0, 0⟩ responses with
  | (progress, some error) => (progress.table, .error error)
  | (progress, none) =>
      (progress.table, .ok ⟨day, progress.tenantsSeen.length, progress.rowsWritten,
        progress.untaggedCostCents, progress.ceCalls⟩)

/-! ## The writes of a run -/

/-- The groups of the pages that the loop reaches if nothing raises. -/
def allGroups : List Response → List Group
  | [] => []
  | response :: rest =>
      iterGroups response ++
        if (response.nextPageToken.getD "") = "" then [] else allGroups rest

/-- The puts of groups up to the first that raises. -/
def putsOf (day : Date) : List Group → List (RollupKey × RollupRow)
  | [] => []
  | group :: rest =>
      match putGroup day group with
      | .error _ => []
      | .ok put => put :: putsOf day rest

/-- The puts of a run. -/
def writes (day : Date) (responses : List Response) : List (RollupKey × RollupRow) :=
  putsOf day (allGroups responses)

/-- What puts do to the progress of a run. -/
def Progress.wroteAll (progress : Progress) (puts : List (RollupKey × RollupRow)) : Progress :=
  puts.foldl Progress.wrote progress

variable {day : Date} {progress : Progress} {groups more : List Group}

/-- No group of the list raises. -/
def Sound (day : Date) (groups : List Group) : Prop :=
  ∀ group ∈ groups, ∃ put, putGroup day group = .ok put

theorem putsOf_of_error {group : Group} {rest : List Group} {error : PyError}
    (raised : putGroup day group = .error error) : putsOf day (group :: rest) = [] := by
  unfold putsOf
  rw [raised]

theorem putsOf_of_ok {group : Group} {rest : List Group} {put : RollupKey × RollupRow}
    (accepted : putGroup day group = .ok put) :
    putsOf day (group :: rest) = put :: putsOf day rest := by
  conv_lhs => unfold putsOf
  rw [accepted]

theorem not_sound_of_error {group : Group} {rest : List Group} {error : PyError}
    (raised : putGroup day group = .error error) : ¬ Sound day (group :: rest) := by
  intro sound
  obtain ⟨put, accepted⟩ := sound group List.mem_cons_self
  cases raised.symm.trans accepted

theorem sound_cons_of_ok {group : Group} {rest : List Group} {put : RollupKey × RollupRow}
    (accepted : putGroup day group = .ok put) : Sound day (group :: rest) ↔ Sound day rest := by
  constructor
  · intro sound other member
    exact sound other (List.mem_cons_of_mem _ member)
  · intro sound other member
    rcases List.mem_cons.mp member with same | later
    · exact ⟨put, same ▸ accepted⟩
    · exact sound other later

theorem processGroups_eq (day : Date) (progress : Progress) (groups : List Group) :
    (processGroups day progress groups).1 = progress.wroteAll (putsOf day groups) ∧
      ((processGroups day progress groups).2 = none ↔ Sound day groups) := by
  induction groups generalizing progress with
  | nil => exact ⟨rfl, iff_of_true rfl fun _ member => absurd member List.not_mem_nil⟩
  | cons group rest ih =>
      unfold processGroups
      cases put : putGroup day group with
      | error error =>
          rw [putsOf_of_error put]
          exact ⟨rfl, iff_of_false (fun same => by cases same) (not_sound_of_error put)⟩
      | ok row =>
          obtain ⟨reached, finished⟩ := ih (progress.wrote row)
          rw [putsOf_of_ok put, sound_cons_of_ok put]
          exact ⟨reached, finished⟩

theorem putsOf_append_of_sound (sound : Sound day groups) :
    putsOf day (groups ++ more) = putsOf day groups ++ putsOf day more := by
  induction groups with
  | nil => rfl
  | cons group rest ih =>
      obtain ⟨put, accepted⟩ := sound group List.mem_cons_self
      have later := ih ((sound_cons_of_ok accepted).mp sound)
      rw [List.cons_append, putsOf_of_ok accepted, putsOf_of_ok accepted, later, List.cons_append]

theorem putsOf_append_of_not_sound (unsound : ¬ Sound day groups) :
    putsOf day (groups ++ more) = putsOf day groups := by
  induction groups with
  | nil => exact absurd (fun _ member => absurd member List.not_mem_nil) unsound
  | cons group rest ih =>
      rw [List.cons_append]
      cases put : putGroup day group with
      | error error => rw [putsOf_of_error put, putsOf_of_error put]
      | ok row =>
          have later := ih (mt (sound_cons_of_ok put).mpr unsound)
          rw [putsOf_of_ok put, putsOf_of_ok put, later]

/-- The cents that puts store under the untagged tenant. -/
def untaggedCents (puts : List (RollupKey × RollupRow)) : ℤ :=
  (puts.map fun put => if put.1.1 = untaggedTenantId then put.2.costCents else 0).sum

section Progress

variable {puts : List (RollupKey × RollupRow)}

theorem table_wroteAll : (progress.wroteAll puts).table = progress.table.putAll puts := by
  induction puts generalizing progress with
  | nil => rfl
  | cons put rest ih => exact ih

theorem untaggedCostCents_wroteAll :
    (progress.wroteAll puts).untaggedCostCents = progress.untaggedCostCents + untaggedCents puts := by
  induction puts generalizing progress with
  | nil => exact (Int.add_zero _).symm
  | cons put rest ih =>
      have later := @ih (progress.wrote put)
      rw [untaggedCents, List.map_cons, List.sum_cons, ← Int.add_assoc]
      exact later

end Progress

/-- A run puts its writes into the table, and has added up those of the untagged tenant. When it
does not raise, no group of any page does. -/
theorem processPages_eq (day : Date) (progress : Progress) (responses : List Response) :
    (processPages day progress responses).1.table = progress.table.putAll (writes day responses) ∧
      (processPages day progress responses).1.untaggedCostCents =
        progress.untaggedCostCents + untaggedCents (writes day responses) ∧
      ((processPages day progress responses).2 = none → Sound day (allGroups responses)) := by
  induction responses generalizing progress with
  | nil => exact ⟨rfl, (Int.add_zero _).symm, fun same => by cases same⟩
  | cons response rest ih =>
      obtain ⟨reached, finished⟩ := processGroups_eq day
        { progress with ceCalls := progress.ceCalls + 1 } (iterGroups response)
      unfold processPages writes allGroups
      cases page : processGroups day { progress with ceCalls := progress.ceCalls + 1 }
          (iterGroups response) with
      | mk after raised =>
          rw [page] at reached finished
          cases raised with
          | some error =>
              have unsound : ¬ Sound day (iterGroups response) := by
                intro sound
                cases finished.mpr sound
              refine ⟨?_, ?_, fun same => by cases same⟩
              · rw [putsOf_append_of_not_sound unsound]
                exact (congrArg Progress.table reached).trans table_wroteAll
              · rw [putsOf_append_of_not_sound unsound]
                exact (congrArg Progress.untaggedCostCents reached).trans untaggedCostCents_wroteAll
          | none =>
              have sound := finished.mp rfl
              have table : after.table = progress.table.putAll (putsOf day (iterGroups response)) :=
                (congrArg Progress.table reached).trans table_wroteAll
              have untagged : after.untaggedCostCents = progress.untaggedCostCents +
                  untaggedCents (putsOf day (iterGroups response)) :=
                (congrArg Progress.untaggedCostCents reached).trans untaggedCostCents_wroteAll
              by_cases last : response.nextPageToken.getD "" = ""
              · simp only [last, ↓reduceIte, List.append_nil]
                exact ⟨table, untagged, fun _ => sound⟩
              · obtain ⟨tableLater, untaggedLater, soundLater⟩ := ih after
                simp only [last, ↓reduceIte]
                rw [putsOf_append_of_sound sound]
                refine ⟨?_, ?_, fun same group member => ?_⟩
                · rw [tableLater, table, Table.putAll_append]
                  rfl
                · rw [untaggedLater, untagged, Int.add_assoc]
                  refine congrArg (progress.untaggedCostCents + ·) ?_
                  rw [untaggedCents, untaggedCents, untaggedCents, List.map_append, List.sum_append]
                  rfl
                · rcases List.mem_append.mp member with member | member
                  · exact sound group member
                  · exact soundLater same group member

/-- A run puts its writes into the table. -/
theorem table_aggregateDay (table : RollupTable) (day : Date) (responses : List Response) :
    (aggregateDay table day responses).1 = table.putAll (writes day responses) := by
  unfold aggregateDay
  have put := (processPages_eq day ⟨table, 0, [], 0, 0⟩ responses).1
  split
  · rename_i same
    rw [same] at put
    exact put
  · rename_i same
    rw [same] at put
    exact put

/-- A run that completes has put a row for every group, and says what it has put under the
untagged tenant. -/
theorem aggregateDay_eq_ok {table : RollupTable} {responses : List Response}
    {summary : AggregationSummary} (completed : (aggregateDay table day responses).2 = .ok summary) :
    Sound day (allGroups responses) ∧
      summary.untaggedCostCents = untaggedCents (writes day responses) := by
  unfold aggregateDay at completed
  obtain ⟨-, untagged, sound⟩ := processPages_eq day ⟨table, 0, [], 0, 0⟩ responses
  split at completed
  · cases completed
  · rename_i same
    rw [same] at untagged sound
    cases completed
    exact ⟨sound rfl, untagged.trans (Int.zero_add _)⟩

/-- The put of a group is a row of the day, with the cents of the group. -/
theorem putGroup_eq_ok {group : Group} {put : RollupKey × RollupRow}
    (accepted : putGroup day group = .ok put) :
    InDay day put.1 ∧ usdToCents group.amount = .ok put.2.costCents ∧ 0 ≤ put.2.costCents := by
  obtain ⟨⟨tenantId, service, costCents⟩, parsed, accepted⟩ := Except.bind_eq_ok.mp accepted
  obtain ⟨cents, read, same⟩ := Except.bind_eq_ok.mp parsed
  have given : cents = costCents := congrArg (fun parts => parts.2.2) (Except.ok.inj same)
  obtain ⟨key, cost, nonneg⟩ := putRollup_eq_ok accepted
  rw [key, cost]
  exact ⟨inDay_makeDayServiceKey day _ _, given ▸ read, nonneg⟩

/-- Every put is the put of a group. -/
theorem exists_of_mem_putsOf {put : RollupKey × RollupRow} (member : put ∈ putsOf day groups) :
    ∃ group ∈ groups, putGroup day group = .ok put := by
  induction groups with
  | nil => exact absurd member List.not_mem_nil
  | cons group rest ih =>
      cases accepted : putGroup day group with
      | error error =>
          rw [putsOf_of_error accepted] at member
          exact absurd member List.not_mem_nil
      | ok row =>
          rw [putsOf_of_ok accepted] at member
          rcases List.mem_cons.mp member with rfl | member
          · exact ⟨group, List.mem_cons_self, accepted⟩
          · obtain ⟨other, present, accepted⟩ := ih member
            exact ⟨other, List.mem_cons_of_mem _ present, accepted⟩

/-- The writes of a run are rows of the day. -/
theorem inDay_of_mem_writes {responses : List Response} {put : RollupKey × RollupRow}
    (member : put ∈ writes day responses) : InDay day put.1 := by
  obtain ⟨group, -, accepted⟩ := exists_of_mem_putsOf member
  exact (putGroup_eq_ok accepted).1

end Panakoes.CostRollupAggregator
