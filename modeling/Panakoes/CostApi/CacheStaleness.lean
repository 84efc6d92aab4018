import Panakoes.CostApi.TenantCache
import Panakoes.CostApi.WindowQuery

/-! # How old the breakdown by tenant is

A row of a window expires at most the lifetime after its breakdown was computed. Whether a request is
served with an older one is whether it finds a row that has expired and is not deleted yet.
-/

namespace Panakoes.CostApi

variable {sha256 : String → String} {floats : FloatRounding} {rollup : Rollup}

variable (sha256 floats rollup) in
/-- The answer was computed from the rollup table by one of the events, a request with the key that
found nothing in the cache. -/
def ComputedIn (events : List CacheEvent) (key : String) (answer : TenantAnswer) : Prop :=
  ∃ past window sizes rest state,
    events = past ++ ⟨answer.queriedAt, .request window sizes⟩ :: rest ∧
      Transition.execute (CacheState.step sha256 floats) (.initial rollup) past = some state ∧
        tenantKey sha256 window = key ∧ state.cache.lookup key = none ∧
          aggregateWindow floats state.rollup.table sizes window = .ok answer.breakdown

variable (sha256 floats rollup) in
/-- Every request receives a breakdown that was computed at most the lifetime before. -/
def BoundedStaleness (events : List CacheEvent) : Prop :=
  ∀ past window sizes now rest state,
    events = past ++ CacheEvent.mk now (.request window sizes) :: rest →
      Transition.execute (CacheState.step sha256 floats) (.initial rollup) past = some state →
        state.clock ≤ now →
          ∃ answer cache computed,
            state.byTenant sha256 floats window sizes now = .ok (answer, cache) ∧
              (answer = computed ∨ answer = computed.hit) ∧
                ComputedIn sha256 floats rollup (past ++ [⟨now, .request window sizes⟩])
                  (tenantKey sha256 window) computed ∧
                  now ≤ computed.queriedAt + tenantCacheTtlSeconds * 1000000

variable (sha256) in
/-- A request does not find a row that has expired. -/
def FindsNoExpired (_ : List CacheEvent) (state : CacheState) (event : CacheEvent) : Prop :=
  match event.action with
  | .request window _ =>
      ∀ row ∈ state.cache.lookup (tenantKey sha256 window), event.now ≤ row.expiresAt * 1000000
  | _ => True

instance (past : List CacheEvent) (state : CacheState) (event : CacheEvent) :
    Decidable (FindsNoExpired sha256 past state event) := by
  unfold FindsNoExpired
  split <;> infer_instance

/-- The row of an answer. -/
def TenantAnswer.row (answer : TenantAnswer) : CacheRow :=
  ⟨.tenant answer, answer.queriedAt / 1000000 + tenantCacheTtlSeconds⟩

variable (sha256 floats rollup) in
/-- The rows of windows hold breakdowns that were computed, with the second they expire at. -/
def Stamped (past : List CacheEvent) (state : CacheState) : Prop :=
  ∀ window row, state.cache.lookup (tenantKey sha256 window) = some row →
    ∃ answer : TenantAnswer, row = answer.row ∧
      ComputedIn sha256 floats rollup past (tenantKey sha256 window) answer

variable {past : List CacheEvent} {state next : CacheState} {event : CacheEvent}
  {window : DateRange} {sizes : Date → List ℕ} {now : ℕ} {key : String} {answer : TenantAnswer}

theorem ComputedIn.append (computed : ComputedIn sha256 floats rollup past key answer)
    (later : List CacheEvent) : ComputedIn sha256 floats rollup (past ++ later) key answer := by
  obtain ⟨before, window, sizes, rest, state, rfl, reached, facts⟩ := computed
  exact ⟨before, window, sizes, rest ++ later, state, by rw [List.append_assoc]; rfl, reached, facts⟩

/-- What a request receives: the row of its key, or what it computes and puts there. -/
theorem CacheState.byTenant_eq (stamped : Stamped sha256 floats rollup past state)
    (window : DateRange) (sizes : Date → List ℕ) (now : ℕ) :
    (∃ answer : TenantAnswer, state.cache.lookup (tenantKey sha256 window) = some answer.row ∧
      state.byTenant sha256 floats window sizes now = .ok (answer.hit, state.cache)) ∨
    ∃ breakdown, state.cache.lookup (tenantKey sha256 window) = none ∧
      aggregateWindow floats state.rollup.table sizes window = .ok breakdown ∧
        state.byTenant sha256 floats window sizes now =
          .ok (⟨breakdown, now⟩, state.cache.insert (tenantKey sha256 window)
            (TenantAnswer.mk breakdown now).row) := by
  cases found : state.cache.lookup (tenantKey sha256 window) with
  | some row =>
      obtain ⟨answer, rfl, -⟩ := stamped window row found
      left
      refine ⟨answer, rfl, ?_⟩
      unfold CacheState.byTenant cacheOrFetch CacheTable.get
      rw [found]
      rfl
  | none =>
      obtain ⟨rows, -, -, aggregated⟩ := state.rollup.aggregateWindow_eq_shown floats sizes window
      right
      refine ⟨_, rfl, aggregated, ?_⟩
      unfold CacheState.byTenant cacheOrFetch CacheTable.get
      rw [found, aggregated]
      rfl

/-- What a request leaves under a key of a window, where it was computed at the request. -/
theorem ComputedIn.ofRequest {breakdown : TenantCostBreakdown}
    (reached : Transition.execute (CacheState.step sha256 floats) (.initial rollup) past = some state)
    (missed : state.cache.lookup (tenantKey sha256 window) = none)
    (aggregated : aggregateWindow floats state.rollup.table sizes window = .ok breakdown) :
    ComputedIn sha256 floats rollup (past ++ [⟨now, .request window sizes⟩])
      (tenantKey sha256 window) ⟨breakdown, now⟩ :=
  ⟨past, window, sizes, [], state, rfl, reached, rfl, missed, aggregated⟩

/-- Every step keeps the stamps. -/
theorem Stamped.step
    (reached : Transition.execute (CacheState.step sha256 floats) (.initial rollup) past = some state)
    (stamped : Stamped sha256 floats rollup past state)
    (taken : state.step sha256 floats event = some next) :
    Stamped sha256 floats rollup (past ++ [event]) next := by
  have kept : ∀ window row, state.cache.lookup (tenantKey sha256 window) = some row →
      ∃ answer : TenantAnswer, row = answer.row ∧
        ComputedIn sha256 floats rollup (past ++ [event]) (tenantKey sha256 window) answer := by
    intro window row found
    obtain ⟨answer, same, computed⟩ := stamped window row found
    exact ⟨answer, same, computed.append [event]⟩
  unfold CacheState.step at taken
  split at taken
  · cases taken
  · obtain ⟨cache, after, rfl⟩ := Option.map_eq_some_iff.mp taken
    intro window row found
    dsimp only at found
    obtain ⟨now, action⟩ := event
    unfold CacheState.cacheAfter at after
    cases action with
    | request asked sizes =>
        dsimp only at after
        rcases CacheState.byTenant_eq stamped asked sizes now with
          ⟨answer, held, served⟩ | ⟨breakdown, missed, aggregated, served⟩
        · rw [served] at after
          obtain rfl := Option.some.inj after
          exact kept window row found
        · rw [served] at after
          dsimp only at after
          obtain rfl := Option.some.inj after
          rcases Table.lookup_insert_cases found with ⟨same, rfl⟩ | ⟨-, before⟩
          · refine ⟨⟨breakdown, now⟩, rfl, ?_⟩
            rw [same]
            exact ComputedIn.ofRequest reached missed aggregated
          · exact kept window row before
    | aggregate table =>
        obtain rfl := Option.some.inj after
        exact kept window row found
    | otherView view fromDate toDate groupBy serviceFilter ttlSeconds =>
        unfold CacheTable.put at after
        dsimp only at after
        split at after
        · rename_i put
          split at put
          · cases put
          · obtain rfl := Except.ok.inj put
            obtain rfl := Option.some.inj after
            rcases Table.lookup_insert_cases found with ⟨same, -⟩ | ⟨-, before⟩
            · exact absurd same.symm
                (tenantKey_ne sha256 window view fromDate toDate groupBy serviceFilter)
            · exact kept window row before
        · obtain rfl := Option.some.inj after
          exact kept window row found
    | sweep key =>
        dsimp only at after
        split at after
        · split at after
          · obtain rfl := Option.some.inj after
            by_cases same : tenantKey sha256 window = key
            · rw [same, AList.lookup_erase] at found
              cases found
            · rw [AList.lookup_erase_ne same] at found
              exact kept window row found
          · cases after
        · cases after

/-- The stamps hold wherever a run leads. -/
theorem stamped_of_execute
    (reached : Transition.execute (CacheState.step sha256 floats) (.initial rollup) past =
      some state) : Stamped sha256 floats rollup past state := by
  have initial : Stamped sha256 floats rollup [] (CacheState.initial rollup) := by
    intro window row found
    cases found
  exact Transition.execute_induction (motive := Stamped sha256 floats rollup) initial
    (fun _ _ _ _ reached stamped _ taken => stamped.step reached taken)
    Transition.Meets.trivial reached

/-- **Bounded staleness.** If no request finds a row that has expired and is not deleted yet, every
request receives a breakdown that was computed at most the lifetime before. -/
theorem boundedStaleness_of_findsNoExpired {events : List CacheEvent}
    (meets : Transition.Meets (CacheState.step sha256 floats) (FindsNoExpired sha256) []
      (.initial rollup) events) :
    BoundedStaleness sha256 floats rollup events := by
  intro past window sizes now rest state same reached clock
  subst same
  have stamped := stamped_of_execute reached
  have current := ((Transition.Meets.append.mp meets).2 state reached).1
  rcases CacheState.byTenant_eq stamped window sizes now with
    ⟨answer, held, served⟩ | ⟨breakdown, missed, aggregated, served⟩
  · obtain ⟨computed, row, provenance⟩ := stamped window _ held
    obtain rfl : answer = computed := by
      injection congrArg CacheRow.payload row
    have unexpired : now ≤ answer.row.expiresAt * 1000000 := current _ held
    have stamp : answer.row.expiresAt = answer.queriedAt / 1000000 + tenantCacheTtlSeconds := rfl
    have seconds := Nat.div_mul_le_self answer.queriedAt 1000000
    refine ⟨answer.hit, state.cache, answer, served, Or.inr rfl, provenance.append _, ?_⟩
    rw [stamp, Nat.add_mul] at unexpired
    exact unexpired.trans (Nat.add_le_add_right seconds _)
  · refine ⟨⟨breakdown, now⟩, _, ⟨breakdown, now⟩, served, Or.inl rfl, ?_, Nat.le_add_right _ _⟩
    exact ComputedIn.ofRequest reached missed aggregated

/-- A request that is served with an older breakdown exceeds the bound. -/
theorem not_boundedStaleness_of_old
    (reached : Transition.execute (CacheState.step sha256 floats) (.initial rollup) past = some state)
    (clock : state.clock ≤ now)
    (held : state.cache.lookup (tenantKey sha256 window) = some answer.row)
    (old : answer.queriedAt + tenantCacheTtlSeconds * 1000000 < now) :
    ¬ BoundedStaleness sha256 floats rollup (past ++ [⟨now, .request window sizes⟩]) := by
  intro bounded
  obtain ⟨received, cache, computed, served, same, -, recent⟩ :=
    bounded past window sizes now [] state rfl reached clock
  have hit : state.byTenant sha256 floats window sizes now = .ok (answer.hit, state.cache) := by
    unfold CacheState.byTenant cacheOrFetch CacheTable.get
    rw [held]
    rfl
  rw [hit] at served
  have time : computed.queriedAt = answer.queriedAt := by
    injection served with pair
    injection pair with first
    rcases same with rfl | rfl
    · rw [← first]
      rfl
    · change computed.hit.queriedAt = answer.hit.queriedAt
      rw [first]
  omega

/-- The window of one day. -/
def oneDay : DateRange := ⟨⟨2026, 5, 1⟩, ⟨2026, 5, 2⟩, by decide, by decide, by decide⟩

/-- A table without rows. -/
def noRows : Rollup := ⟨∅, fun _ _ held => by cases held⟩

/-- A request at the hour is served from the cache. -/
theorem boundedStaleness_oneHour :
    BoundedStaleness id default noRows
      [⟨0, .request oneDay fun _ => []⟩, ⟨3600000000, .request oneDay fun _ => []⟩] :=
  boundedStaleness_of_findsNoExpired (by decide)

/-- The breakdown of no rows. -/
def emptyAnswer : TenantAnswer := ⟨⟨⟨2026, 5, 1⟩, ⟨2026, 5, 2⟩, "USD", [], 0, false⟩, 0⟩

/-- The store does not delete the row for seven hours. The aggregator has run after one. -/
theorem not_boundedStaleness_sevenHours :
    ¬ BoundedStaleness id default noRows
      [⟨0, .request oneDay fun _ => []⟩, ⟨3600000000, .aggregate twoServices⟩,
        ⟨25200000000, .request oneDay fun _ => []⟩] := by
  have reached : Transition.execute (CacheState.step id default) (.initial noRows)
      [⟨0, .request oneDay fun _ => []⟩, ⟨3600000000, .aggregate twoServices⟩] =
        some ⟨twoServices, (∅ : CacheTable).insert (tenantKey id oneDay) emptyAnswer.row,
          3600000000⟩ := rfl
  exact not_boundedStaleness_of_old reached (by decide) (AList.lookup_insert _) (by decide)

end Panakoes.CostApi
