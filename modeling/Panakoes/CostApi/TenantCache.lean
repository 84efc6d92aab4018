import Panakoes.CostApi.WindowTotals
import Panakoes.Foundation.JsonText
import Panakoes.Foundation.Run

/-! # The cache in front of the breakdown by tenant

The cache table is shared by the views, which put their kind in front of the key. A row carries the
second it expires at; the store deletes it at some time after that, and reading does not look at it.
Times are in microseconds. The digest of a key is a parameter.
-/

namespace Panakoes.CostApi

variable (sha256 : String → String) (floats : FloatRounding)

/-! ## Keys -/

/-- `CacheKey`. -/
structure CacheKey where
  queryKind : String
  fromDate : Date
  toDate : Date
  groupBy : Option String
  serviceFilter : Option String

/-- An optional text as a value. -/
def optionalText : Option String → PyJson
  | some text => .str text
  | none => .none

/-- The canonical text of a key: sorted members without spaces. No member is a float. -/
def CacheKey.canonical (key : CacheKey) : String :=
  JsonText.dumps ⟨false, true, fun value => JsonText.intNumeral value.num⟩
    (.dict [("from", .str key.fromDate.isoformat), ("group_by", optionalText key.groupBy),
      ("kind", .str key.queryKind), ("service_filter", optionalText key.serviceFilter),
      ("to", .str key.toDate.isoformat)])

/-- `to_string`. -/
def CacheKey.toString (key : CacheKey) : String := key.queryKind ++ ":" ++ sha256 key.canonical

/-- The key of the breakdown of a window. -/
def tenantKey (window : DateRange) : String :=
  CacheKey.toString sha256 ⟨"by-tenant", window.fromDate, window.toDate, none, none⟩

/-- The other views that cache in the same table. -/
inductive OtherView where
  | byService
  | forecast
  deriving DecidableEq

/-- The kind that a view puts in front of its keys. -/
def OtherView.queryKind : OtherView → String
  | .byService => "by-service"
  | .forecast => "forecast"

/-- The views do not share keys. -/
theorem tenantKey_ne (window : DateRange) (view : OtherView) (fromDate toDate : Date)
    (groupBy serviceFilter : Option String) :
    CacheKey.toString sha256 ⟨view.queryKind, fromDate, toDate, groupBy, serviceFilter⟩ ≠
      tenantKey sha256 window := by
  intro same
  have heads := congrArg (fun text : String => text.toList.take 4) same
  unfold tenantKey CacheKey.toString at heads
  cases view <;> simp [OtherView.queryKind] at heads

/-! ## The cache -/

/-- A breakdown with the time it was queried at. -/
structure TenantAnswer where
  breakdown : TenantCostBreakdown
  queriedAt : ℕ

/-- The answer as the cache serves it. -/
def TenantAnswer.hit (answer : TenantAnswer) : TenantAnswer :=
  { answer with breakdown := { answer.breakdown with cacheHit := true } }

/-- The payload of a row: a breakdown by tenant, or the answer of another view. -/
inductive CachePayload where
  | tenant (answer : TenantAnswer)
  | other

/-- A row of the cache table. -/
structure CacheRow where
  payload : CachePayload
  expiresAt : ℕ

/-- The cache table. -/
abbrev CacheTable := Table String CacheRow

/-- `CostCache.get`, or the `ValidationError` of the answer of another view. -/
def CacheTable.get (cache : CacheTable) (key : String) : Except PyError (Option TenantAnswer) :=
  match cache.lookup key with
  | none => .ok none
  | some ⟨.tenant answer, _⟩ => .ok (some answer.hit)
  | some ⟨.other, _⟩ => .error .valueError

/-- `CostCache.put`. -/
def CacheTable.put (cache : CacheTable) (key : String) (payload : CachePayload) (ttlSeconds now : ℕ) :
    Except PyError CacheTable :=
  if ttlSeconds = 0 then .error .valueError
  else .ok (cache.insert key ⟨payload, now / 1000000 + ttlSeconds⟩)

/-- `cache_or_fetch`: the answer, and the table after it. -/
def cacheOrFetch (cache : CacheTable) (key : String) (fetch : Except PyError TenantAnswer)
    (ttlSeconds now : ℕ) : Except PyError (TenantAnswer × CacheTable) := do
  match ← cache.get key with
  | some cached => return (cached, cache)
  | none =>
      let fresh ← fetch
      let next ← cache.put key (.tenant fresh) ttlSeconds now
      return (fresh, next)

/-- `TENANT_CACHE_TTL_SECONDS`. -/
def tenantCacheTtlSeconds : ℕ := 6 * 3600

/-! ## The requests, the aggregator and the store -/

/-- The two tables, and the time of the last event. -/
structure CacheState where
  rollup : Rollup
  cache : CacheTable
  clock : ℕ

/-- What happens. The aggregator may leave any table behind. -/
inductive CacheAction where
  | request (window : DateRange) (sizes : Date → List ℕ)
  | aggregate (rollup : Rollup)
  | otherView (view : OtherView) (fromDate toDate : Date) (groupBy serviceFilter : Option String)
      (ttlSeconds : ℕ)
  | sweep (key : String)

/-- An action and its time. -/
structure CacheEvent where
  now : ℕ
  action : CacheAction

/-- `get_cost_by_tenant`: the answer, and the cache after it. -/
def CacheState.byTenant (state : CacheState) (window : DateRange) (sizes : Date → List ℕ) (now : ℕ) :
    Except PyError (TenantAnswer × CacheTable) :=
  let fetch := (aggregateWindow floats state.rollup.table sizes window).map fun breakdown =>
    TenantAnswer.mk breakdown now
  cacheOrFetch state.cache (tenantKey sha256 window) fetch tenantCacheTtlSeconds now

/-- The cache after an action, or `none` where the store has no such row to delete yet. -/
def CacheState.cacheAfter (state : CacheState) (event : CacheEvent) : Option CacheTable :=
  match event.action with
  | .request window sizes =>
      match state.byTenant sha256 floats window sizes event.now with
      | .ok (_, cache) => some cache
      | .error _ => some state.cache
  | .aggregate _ => some state.cache
  | .otherView view fromDate toDate groupBy serviceFilter ttlSeconds =>
      match state.cache.put
          (CacheKey.toString sha256 ⟨view.queryKind, fromDate, toDate, groupBy, serviceFilter⟩)
          .other ttlSeconds event.now with
      | .ok cache => some cache
      | .error _ => some state.cache
  | .sweep key =>
      match state.cache.lookup key with
      | some row =>
          if row.expiresAt * 1000000 ≤ event.now then some (state.cache.erase key) else none
      | none => none

/-- The rollup table after an action. -/
def CacheState.rollupAfter (state : CacheState) (event : CacheEvent) : Rollup :=
  match event.action with
  | .aggregate rollup => rollup
  | _ => state.rollup

/-- Events do not happen before earlier ones. -/
def CacheState.step (state : CacheState) (event : CacheEvent) : Option CacheState :=
  if event.now < state.clock then none
  else (state.cacheAfter sha256 floats event).map fun cache =>
    ⟨state.rollupAfter event, cache, event.now⟩

/-- A rollup table in front of which nothing is cached yet. -/
def CacheState.initial (rollup : Rollup) : CacheState := ⟨rollup, ∅, 0⟩

end Panakoes.CostApi
