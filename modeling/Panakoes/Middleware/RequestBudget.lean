import Panakoes.Middleware.RateLimit

/-! # The budget of requests

`RateLimitMiddleware` over the store of one process. A request is passed through when the hits of
its key in the window are within the budget, and every request is a hit, a rejected one as well. A
rejected client is told when the oldest of them leaves the window.
-/

namespace Panakoes.Middleware

variable {ρ κ : Type*}

/-- `RateLimitMiddleware`. Its limit is `requests_per_minute`. -/
structure RateLimitMiddleware (ρ κ : Type*) where
  keyFn : ρ → κ
  limit : ℕ
  windowSeconds : ℤ
  positive : 0 < limit

/-- A request, with the clock readings of its hit and of its answer. -/
structure Arrival (ρ : Type*) where
  request : ρ
  now : ℚ≥0
  answeredAt : ℚ≥0

/-- What becomes of a request; a rejected one is told the seconds of its `Retry-After`. -/
inductive Verdict where
  | passed
  | rejected (retryAfter : ℤ)
  deriving DecidableEq

/-- `int(value)`. -/
def truncated (value : ℚ) : ℤ := if 0 ≤ value then ⌊value⌋ else ⌈value⌉

namespace RateLimitMiddleware

variable (middleware : RateLimitMiddleware ρ κ)

/-- The hit that a request is recorded as. -/
def hit (arrival : Arrival ρ) : Hit κ :=
  ⟨middleware.keyFn arrival.request, middleware.windowSeconds, arrival.now⟩

/-- The seconds of `Retry-After`. -/
def retryAfter (oldest : ℚ) (answeredAt : ℚ≥0) : ℤ :=
  max 1 (truncated (middleware.windowSeconds - (answeredAt - oldest)) + 1)

variable [DecidableEq κ]

/-- `RateLimitMiddleware.dispatch`. -/
def dispatch (store : InMemoryStore κ) (arrival : Arrival ρ) : Verdict × InMemoryStore κ :=
  let (answer, store) := store.hit (middleware.hit arrival)
  if middleware.limit < answer.count then
    (.rejected (middleware.retryAfter answer.oldest arrival.answeredAt), store)
  else (.passed, store)

/-- The store after requests in turn. -/
def storeAfter (store : InMemoryStore κ) (arrivals : List (Arrival ρ)) : InMemoryStore κ :=
  arrivals.foldl (fun store arrival => (middleware.dispatch store arrival).2) store

/-- Requests in turn, with what becomes of each. -/
def serve (store : InMemoryStore κ) : List (Arrival ρ) → List (Arrival ρ × Verdict)
  | [] => []
  | arrival :: rest =>
      (arrival, (middleware.dispatch store arrival).1) ::
        serve (middleware.dispatch store arrival).2 rest

variable {middleware} {store : InMemoryStore κ} {past : List (Arrival ρ)} {arrival : Arrival ρ}

theorem dispatch_store :
    (middleware.dispatch store arrival).2 = (store.hit (middleware.hit arrival)).2 := by
  unfold dispatch
  dsimp only
  split <;> rfl

/-- A request is passed through when the hits of its key in the window, its own among them, are
within the budget. -/
theorem dispatch_passed_iff :
    (middleware.dispatch store arrival).1 = .passed ↔
      (store.trimmed (middleware.hit arrival)).length < middleware.limit := by
  have count : (store.hit (middleware.hit arrival)).1.count =
      (store.trimmed (middleware.hit arrival)).length + 1 := by
    rw [InMemoryStore.hit, List.length_append, List.length_singleton]
  unfold dispatch
  dsimp only
  rw [count]
  split
  · rename_i beyond
    exact iff_of_false (fun passed => by cases passed) (by omega)
  · rename_i within
    exact iff_of_true rfl (by omega)

theorem storeAfter_concat :
    middleware.storeAfter store (past ++ [arrival]) =
      (middleware.dispatch (middleware.storeAfter store past) arrival).2 := by
  rw [storeAfter, List.foldl_append]
  rfl

theorem serve_concat :
    middleware.serve store (past ++ [arrival]) =
      middleware.serve store past ++
        [(arrival, (middleware.dispatch (middleware.storeAfter store past) arrival).1)] := by
  induction past generalizing store with
  | nil => rfl
  | cons first rest ih =>
      rw [List.cons_append, serve, ih]
      rfl

/-- A request leaves the deques of other keys as they are. -/
theorem storeAfter_of_ne {key : κ}
    (others : ∀ arrival ∈ past, middleware.keyFn arrival.request ≠ key) :
    middleware.storeAfter store past key = store key := by
  induction past using List.reverseRecOn with
  | nil => rfl
  | append_singleton past arrival ih =>
      have other : key ≠ (middleware.hit arrival).key :=
        (others arrival (by simp)).symm
      rw [storeAfter_concat, dispatch_store, InMemoryStore.hit_of_ne other]
      exact ih fun earlier member => others earlier (List.mem_append_left _ member)

/-! ## What a window lets through -/

/-- The timestamps of the requests of a key. -/
def stamps (middleware : RateLimitMiddleware ρ κ) (arrivals : List (Arrival ρ)) (key : κ) :
    List ℚ≥0 :=
  (arrivals.filter fun arrival => middleware.keyFn arrival.request = key).map Arrival.now

/-- Of the hits of a key the deque holds the last, and those before them have left the window of
a later request. -/
def Retains (middleware : RateLimitMiddleware ρ κ) (past : List (Arrival ρ))
    (store : InMemoryStore κ) : Prop :=
  ∀ key, ∃ expired, middleware.stamps past key = expired ++ store key ∧
    ∀ stamp ∈ expired, ∃ later ∈ past, (stamp : ℚ) ≤ (middleware.hit later).cutoff

theorem stamps_concat (key : κ) :
    middleware.stamps (past ++ [arrival]) key =
      middleware.stamps past key ++
        if middleware.keyFn arrival.request = key then [arrival.now] else [] := by
  unfold stamps
  rw [List.filter_append, List.map_append]
  by_cases same : middleware.keyFn arrival.request = key <;> simp [same]

theorem retains_initial : middleware.Retains [] fun _ => [] :=
  fun _ => ⟨[], rfl, fun _ member => absurd member List.not_mem_nil⟩

theorem Retains.dispatch (retains : middleware.Retains past store) :
    middleware.Retains (past ++ [arrival]) (middleware.dispatch store arrival).2 := by
  intro key
  obtain ⟨expired, split, left⟩ := retains key
  have longer : ∀ stamp ∈ expired, ∃ later ∈ past ++ [arrival],
      (stamp : ℚ) ≤ (middleware.hit later).cutoff := by
    intro stamp member
    obtain ⟨later, place, gone⟩ := left stamp member
    exact ⟨later, List.mem_append_left _ place, gone⟩
  rw [stamps_concat, dispatch_store]
  by_cases same : middleware.keyFn arrival.request = key
  · subst same
    rw [if_pos rfl]
    refine ⟨expired ++ (store (middleware.hit arrival).key).takeWhile
      fun stamp : ℚ≥0 => (stamp : ℚ) ≤ (middleware.hit arrival).cutoff, ?_, ?_⟩
    · have whole := @InMemoryStore.hit_self _ (middleware.hit arrival) store _
      rw [split, show middleware.keyFn arrival.request = (middleware.hit arrival).key from rfl,
        whole, InMemoryStore.trimmed, List.append_assoc, List.append_assoc]
      congr 1
      rw [← List.append_assoc, List.takeWhile_append_dropWhile]
      rfl
    · intro stamp member
      rcases List.mem_append.mp member with member | member
      · exact longer stamp member
      · exact ⟨arrival, by simp, by simpa using List.mem_takeWhile_imp member⟩
  · have other : key ≠ (middleware.hit arrival).key := Ne.symm same
    rw [if_neg same, List.append_nil, InMemoryStore.hit_of_ne other]
    exact ⟨expired, split, longer⟩

theorem retains_storeAfter (past : List (Arrival ρ)) :
    middleware.Retains past (middleware.storeAfter (fun _ => []) past) := by
  induction past using List.reverseRecOn with
  | nil => exact retains_initial
  | append_singleton past arrival ih =>
      rw [storeAfter_concat]
      exact ih.dispatch

/-- The hits in the window of a request are counted. -/
theorem Retains.countP_le (retains : middleware.Retains past store)
    (before : ∀ earlier ∈ past, earlier.now ≤ arrival.now) :
    ((middleware.stamps past (middleware.keyFn arrival.request)).countP fun stamp : ℚ≥0 =>
        (middleware.hit arrival).cutoff < stamp) ≤
      (store.trimmed (middleware.hit arrival)).length := by
  obtain ⟨expired, split, left⟩ := retains (middleware.keyFn arrival.request)
  have gone : expired.countP (fun stamp : ℚ≥0 =>
      (middleware.hit arrival).cutoff < stamp) = 0 := by
    refine List.countP_eq_zero.mpr fun stamp member within => ?_
    obtain ⟨later, place, old⟩ := left stamp member
    have ordered : (later.now : ℚ) ≤ arrival.now := NNRat.coe_le_coe.mpr (before later place)
    have young := of_decide_eq_true within
    rw [Hit.cutoff] at old young
    dsimp only [hit] at old young
    linarith
  have popped : ((store (middleware.hit arrival).key).takeWhile fun stamp : ℚ≥0 =>
      (stamp : ℚ) ≤ (middleware.hit arrival).cutoff).countP (fun stamp : ℚ≥0 =>
      (middleware.hit arrival).cutoff < stamp) = 0 := by
    refine List.countP_eq_zero.mpr fun stamp member within => ?_
    have old : (stamp : ℚ) ≤ (middleware.hit arrival).cutoff :=
      by simpa using List.mem_takeWhile_imp member
    exact absurd (of_decide_eq_true within) (not_lt.mpr old)
  have whole := List.takeWhile_append_dropWhile (l := store (middleware.hit arrival).key)
    (p := fun stamp : ℚ≥0 => decide ((stamp : ℚ) ≤ (middleware.hit arrival).cutoff))
  rw [split, List.countP_append, gone, Nat.zero_add,
    show middleware.keyFn arrival.request = (middleware.hit arrival).key from rfl, ← whole,
    List.countP_append, popped, Nat.zero_add]
  exact List.countP_le_length

/-- The requests of a key that are passed through at times of a window. -/
def passedIn (middleware : RateLimitMiddleware ρ κ) (served : List (Arrival ρ × Verdict)) (key : κ)
    (window : Set ℚ) [DecidablePred (· ∈ window)] : ℕ :=
  served.countP fun entry =>
    entry.2 = .passed ∧ middleware.keyFn entry.1.request = key ∧ (entry.1.now : ℚ) ∈ window

theorem map_fst_serve (arrivals : List (Arrival ρ)) :
    (middleware.serve store arrivals).map Prod.fst = arrivals := by
  induction arrivals generalizing store with
  | nil => rfl
  | cons arrival rest ih =>
      rw [serve, List.map_cons, ih]

/-- The requests that are passed through in a window are among the hits in it. -/
theorem passedIn_le_countP {key : κ} {window : Set ℚ} [DecidablePred (· ∈ window)] {cutoff : ℚ}
    (young : ∀ time ∈ window, cutoff < time) (served : List (Arrival ρ × Verdict)) :
    middleware.passedIn served key window ≤
      (middleware.stamps (served.map Prod.fst) key).countP fun stamp : ℚ≥0 =>
        cutoff < stamp := by
  rw [passedIn, stamps, List.countP_map, List.countP_filter, List.countP_map]
  refine List.countP_mono_left fun entry _ passes => ?_
  obtain ⟨-, same, within⟩ := of_decide_eq_true passes
  simp only [Function.comp_apply, Bool.and_eq_true, decide_eq_true_eq]
  exact ⟨young _ within, same⟩

/-- In a window of which every time is less than the window's length before every other, a key has
no more requests passed through than the budget. -/
theorem passedIn_le_limit {key : κ} {window : Set ℚ} [DecidablePred (· ∈ window)]
    (narrow : ∀ first ∈ window, ∀ last ∈ window, last - middleware.windowSeconds < first)
    {arrivals : List (Arrival ρ)}
    (clocked : arrivals.Pairwise fun earlier later => earlier.now ≤ later.now) :
    middleware.passedIn (middleware.serve (fun _ => []) arrivals) key window ≤
      middleware.limit := by
  induction arrivals using List.reverseRecOn with
  | nil => exact Nat.zero_le _
  | append_singleton past arrival ih =>
      obtain ⟨clockedPast, -, before⟩ := List.pairwise_append.mp clocked
      rw [serve_concat, passedIn, List.countP_append, List.countP_singleton]
      split
      · rename_i passes
        obtain ⟨passed, rfl, within⟩ := of_decide_eq_true passes
        have retained : middleware.Retains past (middleware.storeAfter (fun _ => []) past) :=
          retains_storeAfter past
        have counted := retained.countP_le fun earlier member =>
          before earlier member arrival (List.mem_singleton_self arrival)
        have young : middleware.passedIn (middleware.serve (fun _ => []) past)
            (middleware.keyFn arrival.request) window ≤ _ :=
          passedIn_le_countP (fun time place => narrow time place _ within) _
        rw [map_fst_serve] at young
        exact Nat.succ_le_of_lt ((young.trans counted).trans_lt (dispatch_passed_iff.mp passed))
      · exact ih clockedPast

/-- **In every half-open window of the middleware's length, the requests of a key that are passed
through are within its budget.** -/
theorem passedIn_window_le_limit (middleware : RateLimitMiddleware ρ κ)
    (arrivals : List (Arrival ρ))
    (clocked : arrivals.Pairwise fun earlier later => earlier.now ≤ later.now) (key : κ)
    (start : ℚ) :
    middleware.passedIn (middleware.serve (fun _ => []) arrivals) key
        (Set.Ico start (start + middleware.windowSeconds)) ≤ middleware.limit ∧
      middleware.passedIn (middleware.serve (fun _ => []) arrivals) key
        (Set.Ioc start (start + middleware.windowSeconds)) ≤ middleware.limit := by
  constructor
  · refine passedIn_le_limit ?_ clocked
    intro first ⟨after, _⟩ last ⟨_, before⟩
    linarith
  · refine passedIn_le_limit ?_ clocked
    intro first ⟨after, _⟩ last ⟨_, before⟩
    linarith

/-- One request a minute for an address. -/
def sample : RateLimitMiddleware String String := ⟨id, 1, 60, Nat.one_pos⟩

/-- A request, and another after 59 seconds. -/
def hurried : List (Arrival String) :=
  [⟨"203.0.113.42", 1600000000, 1600000000⟩, ⟨"203.0.113.42", 1600000059, 1600000059⟩]

theorem passedIn_window_le_limit_hurried :
    sample.passedIn (sample.serve (fun _ => []) hurried) "203.0.113.42"
        (Set.Ico 1600000000 (1600000000 + sample.windowSeconds)) ≤ sample.limit ∧
      sample.passedIn (sample.serve (fun _ => []) hurried) "203.0.113.42"
        (Set.Ioc 1600000000 (1600000000 + sample.windowSeconds)) ≤ sample.limit :=
  passedIn_window_le_limit sample hurried (by decide +kernel) "203.0.113.42" 1600000000

/-! ## What a rejected client is told -/

/-- The hits of its key that are in the window of a request, its own among them. -/
def held (middleware : RateLimitMiddleware ρ κ) (store : InMemoryStore κ)
    (arrival : Arrival ρ) : List ℚ≥0 :=
  store.trimmed (middleware.hit arrival) ++ [arrival.now]

/-- The oldest of them. -/
def oldest (middleware : RateLimitMiddleware ρ κ) (store : InMemoryStore κ)
    (arrival : Arrival ρ) : ℚ :=
  ((middleware.held store arrival).headD arrival.now : ℚ≥0)

/-- A client of the key that waits for so many seconds after the answer has its next request
passed through. -/
def AdmitsAfter (middleware : RateLimitMiddleware ρ κ) (store : InMemoryStore κ)
    (arrival : Arrival ρ) (seconds : ℤ) : Prop :=
  ∀ between : List (Arrival ρ), ∀ next : Arrival ρ,
    (∀ other ∈ between, middleware.keyFn other.request ≠ middleware.keyFn arrival.request) →
    middleware.keyFn next.request = middleware.keyFn arrival.request →
    (arrival.answeredAt : ℚ) + seconds ≤ next.now →
      (middleware.dispatch (middleware.storeAfter (middleware.dispatch store arrival).2 between)
        next).1 = .passed

/-- How much later than the moment at which the oldest hit leaves the window `Retry-After` is. -/
def leeway (middleware : RateLimitMiddleware ρ κ) (store : InMemoryStore κ)
    (arrival : Arrival ρ) : ℚ :=
  middleware.retryAfter (middleware.oldest store arrival) arrival.answeredAt -
    (middleware.windowSeconds - (arrival.answeredAt - middleware.oldest store arrival))

/-- Of the hits in the window, the oldest were made within the leeway of the first of them: as many
as there are beyond the budget, and one more. -/
def Bunched (middleware : RateLimitMiddleware ρ κ) (store : InMemoryStore κ)
    (arrival : Arrival ρ) : Prop :=
  ∀ stamp ∈ (middleware.held store arrival).take
      ((middleware.held store arrival).length + 1 - middleware.limit),
    (stamp : ℚ) ≤ middleware.oldest store arrival + middleware.leeway store arrival

theorem retryAfter_of_rejected {seconds : ℤ}
    (rejected : (middleware.dispatch store arrival).1 = .rejected seconds) :
    seconds = middleware.retryAfter (middleware.oldest store arrival) arrival.answeredAt := by
  unfold dispatch at rejected
  dsimp only at rejected
  split at rejected
  · cases rejected
    rfl
  · cases rejected

/-- Popping from the front leaves less than a number when as many as are beyond it are popped. -/
theorem length_dropWhile_lt_iff {α : Type*} {old : α → Bool} {items : List α} {limit : ℕ}
    (positive : 0 < limit) :
    (items.dropWhile old).length < limit ↔
      ∀ item ∈ items.take (items.length + 1 - limit), old item = true := by
  induction items with
  | nil => simpa using positive
  | cons head rest ih =>
      by_cases here : old head = true
      · rw [List.dropWhile_cons_of_pos here, ih, List.length_cons]
        by_cases few : rest.length + 1 < limit
        · rw [Nat.sub_eq_zero_of_le (by omega), Nat.sub_eq_zero_of_le (by omega)]
          simp
        · rw [show rest.length + 1 + 1 - limit = rest.length + 1 - limit + 1 by omega]
          simp [here]
      · rw [List.dropWhile_cons_of_neg here, List.length_cons]
        constructor
        · intro few
          rw [Nat.sub_eq_zero_of_le (by omega)]
          simp
        · intro all
          by_contra many
          refine here (all head ?_)
          rw [show rest.length + 1 + 1 - limit = rest.length + 1 - limit + 1 by omega]
          exact List.mem_cons_self

theorem dispatch_self :
    (middleware.dispatch store arrival).2 (middleware.keyFn arrival.request) =
      middleware.held store arrival := by
  rw [dispatch_store]
  exact InMemoryStore.hit_self

/-- The next request of the key, after requests of others, meets the hits that have not left the
window by then. -/
theorem trimmed_next {between : List (Arrival ρ)} {next : Arrival ρ}
    (others : ∀ other ∈ between,
      middleware.keyFn other.request ≠ middleware.keyFn arrival.request)
    (same : middleware.keyFn next.request = middleware.keyFn arrival.request) :
    (middleware.storeAfter (middleware.dispatch store arrival).2 between).trimmed
        (middleware.hit next) =
      (middleware.held store arrival).dropWhile fun stamp : ℚ≥0 =>
        (stamp : ℚ) ≤ next.now - middleware.windowSeconds := by
  have key : (middleware.hit next).key = middleware.keyFn arrival.request := same
  rw [InMemoryStore.trimmed, key, storeAfter_of_ne others, dispatch_self]
  rfl

/-- The next request is passed through when the oldest hits have left the window by then. -/
theorem dispatch_next_passed_iff {between : List (Arrival ρ)} {next : Arrival ρ}
    (others : ∀ other ∈ between,
      middleware.keyFn other.request ≠ middleware.keyFn arrival.request)
    (same : middleware.keyFn next.request = middleware.keyFn arrival.request) :
    (middleware.dispatch (middleware.storeAfter (middleware.dispatch store arrival).2 between)
        next).1 = .passed ↔
      ∀ stamp ∈ (middleware.held store arrival).take
          ((middleware.held store arrival).length + 1 - middleware.limit),
        (stamp : ℚ) ≤ next.now - middleware.windowSeconds := by
  rw [dispatch_passed_iff, trimmed_next others same, length_dropWhile_lt_iff middleware.positive]
  simp only [decide_eq_true_eq]

/-- **A rejected client that waits as it is told is admitted exactly when the oldest of the hits
that stand in its way, rejected ones among them, are bunched.** -/
theorem admitsAfter_iff_bunched (middleware : RateLimitMiddleware ρ κ) (past : List (Arrival ρ))
    (arrival : Arrival ρ) {seconds : ℤ}
    (rejected : (middleware.dispatch (middleware.storeAfter (fun _ => []) past) arrival).1 =
      .rejected seconds) :
    middleware.AdmitsAfter (middleware.storeAfter (fun _ => []) past) arrival seconds ↔
      middleware.Bunched (middleware.storeAfter (fun _ => []) past) arrival := by
  have waits := retryAfter_of_rejected rejected
  have moment : middleware.oldest (middleware.storeAfter (fun _ => []) past) arrival +
      middleware.leeway (middleware.storeAfter (fun _ => []) past) arrival =
        arrival.answeredAt + seconds - middleware.windowSeconds := by
    rw [leeway, ← waits]
    ring
  unfold Bunched
  rw [moment]
  constructor
  · intro admits stamp member
    have told : (0 : ℚ) ≤ arrival.answeredAt + seconds := by
      have positive : (1 : ℤ) ≤ seconds := waits ▸ le_max_left _ _
      have later : (1 : ℚ) ≤ seconds := by exact_mod_cast positive
      have start := arrival.answeredAt.coe_nonneg
      linarith
    obtain ⟨next, same, exactly⟩ : ∃ next : Arrival ρ,
        middleware.keyFn next.request = middleware.keyFn arrival.request ∧
          (next.now : ℚ) = arrival.answeredAt + seconds :=
      ⟨⟨arrival.request, Rat.toNNRat (arrival.answeredAt + seconds), arrival.answeredAt⟩, rfl,
        Rat.coe_toNNRat _ told⟩
    have passed := admits [] next (List.forall_mem_nil _) same exactly.ge
    rw [← exactly]
    exact (dispatch_next_passed_iff (List.forall_mem_nil _) same).mp passed stamp member
  · intro bunched between next others same late
    refine (dispatch_next_passed_iff others same).mpr fun stamp member => ?_
    have early := bunched stamp member
    linarith

/-- Two requests within a second: the second is told to wait for a minute, and both have left the
window then. -/
theorem admitsAfter_iff_bunched_together :
    (sample.dispatch (sample.storeAfter (fun _ => [])
        [⟨"203.0.113.42", 1600000000, 1600000000⟩])
        ⟨"203.0.113.42", 1600000000, 1600000000⟩).1 = .rejected 61 ∧
      (sample.AdmitsAfter (sample.storeAfter (fun _ => [])
          [⟨"203.0.113.42", 1600000000, 1600000000⟩])
          ⟨"203.0.113.42", 1600000000, 1600000000⟩ 61 ↔
        sample.Bunched (sample.storeAfter (fun _ => [])
          [⟨"203.0.113.42", 1600000000, 1600000000⟩])
          ⟨"203.0.113.42", 1600000000, 1600000000⟩) :=
  ⟨by decide +kernel, admitsAfter_iff_bunched sample _ _ (by decide +kernel)⟩

/-- A request, and another after 59 seconds, which is told to wait for two. It is in the window
itself when the client comes back. -/
theorem admitsAfter_hurried :
    ¬ ∀ (middleware : RateLimitMiddleware String String) (past : List (Arrival String))
      (arrival : Arrival String) (seconds : ℤ),
      (middleware.dispatch (middleware.storeAfter (fun _ => []) past) arrival).1 =
          .rejected seconds →
        middleware.AdmitsAfter (middleware.storeAfter (fun _ => []) past) arrival seconds := by
  intro honest
  have admits := honest sample [⟨"203.0.113.42", 1600000000, 1600000000⟩]
    ⟨"203.0.113.42", 1600000059, 1600000059⟩ 2 (by decide +kernel)
  have passed := admits [] ⟨"203.0.113.42", 1600000061, 1600000061⟩ (by simp) rfl
    (by decide +kernel)
  revert passed
  decide +kernel

end RateLimitMiddleware

end Panakoes.Middleware
