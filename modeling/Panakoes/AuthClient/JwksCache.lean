import Mathlib.Algebra.Order.Field.Rat
import Mathlib.Tactic.Linarith
import Panakoes.Foundation.PyJson
import Panakoes.Foundation.Run
import Panakoes.Foundation.Table

/-! # The JWKS cache

The keys of a JWKS document by their `kid`, kept until they expire. A lookup fetches the document
when there are no keys or they have expired, and once more when the `kid` is not among them. What
is cached is always what the latest fetch that succeeded brought, and a lookup whose fetch fails
returns no key.
-/

namespace Panakoes.AuthClient.Jwks

open Transition

/-- Why a token is not valid. -/
inductive Invalid where
  | invalidToken
  | missingKid
  | noKeyForKid (kid : String)
  | tokenExpired
  | invalidClaims
  deriving DecidableEq

/-- What a lookup or a validation raises: a `JwtInvalidError`, a `JwtConfigError`, or another
exception, by the name of its type. -/
inductive Raised where
  | invalid (reason : Invalid)
  | config
  | other (typeName : String)
  deriving DecidableEq

/-- A key of a JWKS document. -/
abbrev Jwk := List (String × PyJson)

/-- The keys by their `kid`. -/
abbrev Keys := Table String Jwk

/-- `_CacheEntry`. -/
structure CacheEntry where
  keysByKid : Keys
  expiresAt : ℚ

/-- A call of the fetcher, and the reading of the clock behind it. -/
structure Fetch where
  outcome : Except Raised PyJson
  now : ℚ

/-- A fetch that has been made: one that has brought keys, or one that has failed. -/
inductive Attempt where
  | brought (keysByKid : Keys) (now : ℚ)
  | failed

/-- `_cached`, and the fetches so far. -/
structure JwksCache where
  cached : Option CacheEntry
  attempts : List Attempt

/-- One member of `keys`: it is left out, or it replaces an earlier one with its `kid`. -/
def addKey (keysByKid : Keys) : PyJson → Keys
  | .dict jwk =>
      match PyJson.get jwk "kid" with
      | .str kid => keysByKid.insert kid jwk
      | _ => keysByKid
  | _ => keysByKid

/-- The keys of a document, or what the part of `_refresh` behind the fetch raises. -/
def readKeys : PyJson → Except Raised Keys
  | .dict document =>
      match PyJson.get document "keys" with
      | .list keys => .ok (keys.foldl addKey ∅)
      | _ => .error .config
  | _ => .error (.other "AttributeError")

/-- The keys that a fetch brings. -/
def Fetch.keys (fetch : Fetch) : Except Raised Keys := fetch.outcome.bind readKeys

/-- `_refresh`. -/
def refresh (ttl : ℚ) (cache : JwksCache) (fetch : Fetch) : JwksCache × Except Raised CacheEntry :=
  match fetch.keys with
  | .error error => (⟨cache.cached, cache.attempts ++ [.failed]⟩, .error error)
  | .ok keysByKid =>
      let entry : CacheEntry := ⟨keysByKid, fetch.now + ttl⟩
      (⟨some entry, cache.attempts ++ [.brought keysByKid fetch.now]⟩, .ok entry)

/-- What a lookup meets: the reading that the expiry is compared with, and its fetches, in case
it makes them. -/
structure Calls where
  now : ℚ
  first : Fetch
  second : Fetch

/-- The cached entry, unless it has expired. -/
def JwksCache.live (cache : JwksCache) (now : ℚ) : Option CacheEntry :=
  cache.cached.filter fun entry => ¬ entry.expiresAt ≤ now

/-- The entry that a lookup begins with, and the latest reading of the clock. -/
def current (ttl : ℚ) (cache : JwksCache) (calls : Calls) :
    JwksCache × Except Raised CacheEntry × ℚ :=
  match cache.live calls.now with
  | some entry => (cache, .ok entry, calls.now)
  | none =>
      let (cache, entry) := refresh ttl cache calls.first
      (cache, entry, calls.first.now)

/-- What a lookup leaves and returns, and the latest reading of the clock. -/
structure Got where
  cache : JwksCache
  result : Except Raised Jwk
  now : ℚ

/-- The part of `get` behind a miss, with a refresh that is forced. -/
def getAfterMiss (ttl : ℚ) (cache : JwksCache) (kid : String) (fetch : Fetch) : Got :=
  let (cache, entry) := refresh ttl cache fetch
  match entry with
  | .error error => ⟨cache, .error error, fetch.now⟩
  | .ok entry =>
      match entry.keysByKid.lookup kid with
      | some jwk => ⟨cache, .ok jwk, fetch.now⟩
      | none => ⟨cache, .error (.invalid (.noKeyForKid kid)), fetch.now⟩

/-- `get`. -/
def get (ttl : ℚ) (cache : JwksCache) (kid : String) (calls : Calls) : Got :=
  let (cache, entry, now) := current ttl cache calls
  match entry with
  | .error error => ⟨cache, .error error, now⟩
  | .ok entry =>
      match entry.keysByKid.lookup kid with
      | some jwk => ⟨cache, .ok jwk, now⟩
      | none => getAfterMiss ttl cache kid calls.second

/-! ## The latest fetch that succeeded -/

/-- Keys that a fetch has brought, with the reading of the clock behind it. -/
structure Brought where
  keysByKid : Keys
  now : ℚ

/-- The latest fetch that succeeded. -/
def latest (attempts : List Attempt) : Option Brought :=
  attempts.foldl (fun found attempt =>
    match attempt with
    | .brought keysByKid now => some ⟨keysByKid, now⟩
    | .failed => found) none

/-- The entry of a fetch. -/
def Brought.entry (ttl : ℚ) (fetch : Brought) : CacheEntry := ⟨fetch.keysByKid, fetch.now + ttl⟩

/-- The cache holds what the latest fetch that succeeded has brought. -/
def JwksCache.Current (ttl : ℚ) (cache : JwksCache) : Prop :=
  cache.cached = (latest cache.attempts).map (Brought.entry ttl)

/-- A lookup is answered freshly. A key that it returns is the one that the latest successful
fetch has under the `kid`, and that fetch is younger than the time to live. A `kid` that this
fetch does not have is not served. The cache holds what that fetch has brought. Fetches that fail
leave the cached entry as it is, and a lookup with one of them returns no key. -/
structure AnsweredFreshly (ttl : ℚ) (before : JwksCache) (kid : String) (got : Got) : Prop where
  served : ∀ jwk, got.result = .ok jwk → ∃ fetch, latest got.cache.attempts = some fetch ∧
    fetch.keysByKid.lookup kid = some jwk ∧ got.now - ttl < fetch.now
  absent : ∀ fetch, latest got.cache.attempts = some fetch → fetch.keysByKid.lookup kid = none →
    ∀ jwk, got.result ≠ .ok jwk
  current : got.cache.Current ttl
  failures : ∃ made, got.cache.attempts = before.attempts ++ made ∧
    ((∀ attempt ∈ made, attempt = .failed) → got.cache.cached = before.cached) ∧
    (.failed ∈ made → ∀ jwk, got.result ≠ .ok jwk)

variable {ttl : ℚ} {before cache : JwksCache} {kid : String} {calls : Calls}

@[simp] theorem latest_brought (attempts : List Attempt) (keysByKid : Keys) (now : ℚ) :
    latest (attempts ++ [.brought keysByKid now]) = some ⟨keysByKid, now⟩ := by
  rw [latest, List.foldl_append]
  rfl

@[simp] theorem latest_failed (attempts : List Attempt) :
    latest (attempts ++ [.failed]) = latest attempts := by
  rw [latest, List.foldl_append]
  rfl

/-- A refresh fails and leaves the entry, or it replaces the entry. -/
theorem refresh_cases (ttl : ℚ) (cache : JwksCache) (fetch : Fetch) :
    (∃ error, fetch.keys = .error error ∧
        refresh ttl cache fetch = (⟨cache.cached, cache.attempts ++ [.failed]⟩, .error error)) ∨
      ∃ keysByKid, fetch.keys = .ok keysByKid ∧
        refresh ttl cache fetch =
          (⟨some ⟨keysByKid, fetch.now + ttl⟩, cache.attempts ++ [.brought keysByKid fetch.now]⟩,
            .ok ⟨keysByKid, fetch.now + ttl⟩) := by
  unfold refresh
  cases fetch.keys with
  | error error => exact Or.inl ⟨error, rfl, rfl⟩
  | ok keysByKid => exact Or.inr ⟨keysByKid, rfl, rfl⟩

/-- An entry that is used has not expired. -/
theorem live_eq_some {now : ℚ} {entry : CacheEntry} :
    cache.live now = some entry ↔ cache.cached = some entry ∧ now < entry.expiresAt := by
  unfold JwksCache.live
  rw [Option.filter_eq_some_iff, decide_eq_true_eq, not_le]

/-- A lookup that raises. -/
theorem answeredFreshly_error {attempts made : List Attempt} {cached : Option CacheEntry}
    {error : Raised} {now : ℚ} (extended : attempts = before.attempts ++ made)
    (current : JwksCache.Current ttl ⟨cached, attempts⟩)
    (kept : (∀ attempt ∈ made, attempt = .failed) → cached = before.cached) :
    AnsweredFreshly ttl before kid ⟨⟨cached, attempts⟩, .error error, now⟩ where
  served jwk same := by cases same
  absent _ _ _ jwk same := by cases same
  current := current
  failures := ⟨made, extended, kept, fun _ jwk same => by cases same⟩

/-- A key that the latest fetch has brought, which is young enough. -/
theorem answeredFreshly_ok {attempts made : List Attempt} {fetch : Brought} {jwk : Jwk} {now : ℚ}
    (extended : attempts = before.attempts ++ made) (found : latest attempts = some fetch)
    (held : fetch.keysByKid.lookup kid = some jwk) (young : now - ttl < fetch.now)
    (kept : (∀ attempt ∈ made, attempt = .failed) → some (fetch.entry ttl) = before.cached)
    (unfailed : .failed ∉ made) :
    AnsweredFreshly ttl before kid ⟨⟨some (fetch.entry ttl), attempts⟩, .ok jwk, now⟩ where
  served other same := by
    cases same
    exact ⟨fetch, found, held, young⟩
  absent other same missing := by
    cases found.symm.trans same
    rw [held] at missing
    cases missing
  current := by
    unfold JwksCache.Current
    rw [found]
    rfl
  failures := ⟨made, extended, kept, fun failed => absurd failed unfailed⟩

/-- A second fetch, after none or after one that has succeeded. -/
theorem getAfterMiss_answeredFreshly {made : List Attempt} (positive : 0 < ttl) (fetch : Fetch)
    (extended : cache.attempts = before.attempts ++ made) (current : cache.Current ttl)
    (kept : (∀ attempt ∈ made, attempt = .failed) → cache.cached = before.cached)
    (unfailed : .failed ∉ made) :
    AnsweredFreshly ttl before kid (getAfterMiss ttl cache kid fetch) := by
  unfold getAfterMiss
  rcases refresh_cases ttl cache fetch with ⟨error, -, failed⟩ | ⟨keysByKid, -, brought⟩
  · rw [failed]
    refine answeredFreshly_error (by rw [extended, List.append_assoc]) ?_ fun all => ?_
    · unfold JwksCache.Current
      rw [latest_failed]
      exact current
    · exact kept fun attempt member => all attempt (List.mem_append_left _ member)
  · rw [brought]
    dsimp only
    have replaced : ¬ ∀ attempt ∈ made ++ [.brought keysByKid fetch.now], attempt = .failed := by
      intro all
      have last := all _ (List.mem_append_right _ (List.mem_singleton_self _))
      cases last
    have extended' : cache.attempts ++ [.brought keysByKid fetch.now] =
        before.attempts ++ (made ++ [.brought keysByKid fetch.now]) := by
      rw [extended, List.append_assoc]
    cases held : keysByKid.lookup kid with
    | some jwk =>
        refine @answeredFreshly_ok _ _ _ _ _ ⟨keysByKid, fetch.now⟩ _ _ extended'
          (latest_brought _ _ _) held (by linarith) (fun all => absurd all replaced) ?_
        simp [unfailed]
    | none =>
        refine answeredFreshly_error extended' ?_ fun all => absurd all replaced
        unfold JwksCache.Current
        rw [latest_brought]
        rfl

/-- A lookup is answered freshly when the cache is current. -/
theorem get_answeredFreshly (positive : 0 < ttl) (current : before.Current ttl) (kid : String)
    (calls : Calls) : AnsweredFreshly ttl before kid (get ttl before kid calls) := by
  unfold get Jwks.current
  cases live : before.live calls.now with
  | some entry =>
      obtain ⟨cached, unexpired⟩ := live_eq_some.mp live
      have extended : before.attempts = before.attempts ++ [] := (List.append_nil _).symm
      dsimp only
      cases held : entry.keysByKid.lookup kid with
      | none =>
          exact getAfterMiss_answeredFreshly positive calls.second extended current (fun _ => rfl)
            List.not_mem_nil
      | some jwk =>
          obtain ⟨fetch, found, rfl⟩ := Option.map_eq_some_iff.mp (current.symm.trans cached)
          have same : before = ⟨some (fetch.entry ttl), before.attempts⟩ := by
            rw [← cached]
          have young : calls.now - ttl < fetch.now := sub_lt_iff_lt_add.mpr unexpired
          have answered := @answeredFreshly_ok _ before _ _ _ _ _ _ extended found held young
            (fun _ => cached.symm) List.not_mem_nil
          rw [← same] at answered
          exact answered
  | none =>
      rcases refresh_cases ttl before calls.first with ⟨error, -, failed⟩ | ⟨keysByKid, -, brought⟩
      · rw [failed]
        refine answeredFreshly_error rfl ?_ fun _ => rfl
        unfold JwksCache.Current
        rw [latest_failed]
        exact current
      · rw [brought]
        dsimp only
        have replaced : ¬ ∀ attempt ∈ [.brought keysByKid calls.first.now], attempt = Attempt.failed := by
          intro all
          have last := all _ (List.mem_singleton_self _)
          cases last
        cases held : keysByKid.lookup kid with
        | some jwk =>
            refine @answeredFreshly_ok _ _ _ _ _ ⟨keysByKid, calls.first.now⟩ _ _ rfl
              (latest_brought _ _ _) held (by linarith) (fun all => absurd all replaced) ?_
            simp
        | none =>
            refine getAfterMiss_answeredFreshly positive calls.second rfl ?_
              (fun all => absurd all replaced) (by simp)
            unfold JwksCache.Current
            rw [latest_brought]
            rfl

/-- One lookup, for the cache. -/
def step (ttl : ℚ) (cache : JwksCache) (lookup : String × Calls) : Option JwksCache :=
  some (get ttl cache lookup.1 lookup.2).cache

/-- A cache in which nothing has been looked up. -/
def JwksCache.start : JwksCache := ⟨none, []⟩

theorem execute_current (positive : 0 < ttl) {lookups : List (String × Calls)}
    (run : execute (step ttl) JwksCache.start lookups = some cache) : cache.Current ttl := by
  refine @execute_invariant_of_step _ _ _ JwksCache.start (JwksCache.Current ttl) rfl ?_ _ _ run
  intro before lookup after current taken
  cases taken
  exact (get_answeredFreshly positive current lookup.1 lookup.2).current

/-- **The cache is fresh.** After any lookups, whatever their fetches bring and the clock reads,
a lookup is answered freshly. A time to live is positive: it is ten minutes in every service. -/
theorem jwksCache_fresh (positive : 0 < ttl) {lookups : List (String × Calls)}
    (run : execute (step ttl) JwksCache.start lookups = some before) (kid : String)
    (calls : Calls) : AnsweredFreshly ttl before kid (get ttl before kid calls) :=
  get_answeredFreshly positive (execute_current positive run) kid calls

/-- `DEFAULT_JWKS_CACHE_TTL_SECONDS`. -/
def defaultTtl : ℚ := 600

/-- A document with one key. -/
def sampleDocument : PyJson :=
  .dict [("keys", .list [.dict [("kid", .str "k"), ("kty", .str "RSA")]])]

/-- The theorem on a key that is served from the cache. -/
theorem jwksCache_fresh_sample :
    let calls : Calls := ⟨0, ⟨.ok sampleDocument, 0⟩, ⟨.error (.other "URLError"), 0⟩⟩
    ∃ before, execute (step defaultTtl) JwksCache.start [("k", calls)] = some before ∧
      AnsweredFreshly defaultTtl before "k" (get defaultTtl before "k" { calls with now := 100 }) :=
  have run : execute (step defaultTtl) JwksCache.start
      [("k", ⟨0, ⟨.ok sampleDocument, 0⟩, ⟨.error (.other "URLError"), 0⟩⟩)] = some _ := rfl
  ⟨_, run, jwksCache_fresh (by decide) run "k" _⟩

end Panakoes.AuthClient.Jwks
