import Panakoes.Billing.SubscriptionView
import Panakoes.Billing.BillingEventStore

/-! # What the log says last

The event log after appends for any users. A user's rows are in the order of the milliseconds in
which they are appended, so the readers, which go through them from the newest on, find the last
that has what they look for. How the rows are split into pages makes no difference.
-/

namespace Panakoes.Billing

open ConditionalWrite DynamoItem

/-! ## Appending -/

/-- The moment from which `datetime.now(UTC)` raises: the year 10000. -/
def endOfYears : ℕ := 253402300800000

/-- A call of `append`, with what it draws from the clock and from `os.urandom`, and what becomes of
its request. -/
structure Append where
  userId : String
  eventType : String
  attributes : List (String × PyJson)
  distinct : (attributes.map Prod.fst).Nodup
  timestampMs : ℕ
  inYears : timestampMs < endOfYears
  randomBits : ℕ
  createdAt : String
  fault : Fault

namespace Append

/-- The id it draws. -/
def eventId (call : Append) : String := newUlid call.timestampMs call.randomBits

/-- The item it puts. -/
def item (call : Append) : EventItem :=
  eventItem call.userId call.eventType call.eventId call.createdAt call.attributes

/-- The log after it. -/
def apply (log : EventLog) (call : Append) : EventLog :=
  (append call.fault log call.userId call.eventType call.eventId call.createdAt
    call.attributes).table

/-- The row it puts. -/
def row (call : Append) : Sigma fun _ : EventKey => EventItem :=
  ⟨eventKey call.userId call.eventId, call.item⟩

end Append

/-- The log after calls of `append` in turn. -/
def history (calls : List Append) : EventLog := calls.foldl Append.apply ∅

/-- The calls that have put an item of the user. -/
def appended (calls : List Append) (userId : String) : List Append :=
  calls.filter fun call => call.userId = userId ∧ call.fault ≠ .lost

/-! ## Reading -/

/-- `event.get("stripe_customer_id")`, if it is a text that is not empty. -/
def stripeCustomerId (entries : List (String × PyJson)) : Option String :=
  (PyJson.get entries "stripe_customer_id").nonemptyStr?

/-- `BillingEventStore.find_customer_id`, over the pages that its queries return. -/
def findCustomerId : List (List EventItem) → Option String
  | [] => none
  | page :: rest => (page.findSome? stripeCustomerId).or (findCustomerId rest)

theorem findCustomerId_eq (pages : List (List EventItem)) :
    findCustomerId pages = pages.flatten.findSome? stripeCustomerId := by
  induction pages with
  | nil => rfl
  | cons page rest ih => rw [findCustomerId, ih, List.flatten_cons, List.findSome?_append]

section Items

variable (call : Append)

/-- Attributes that are kept by their name. -/
theorem lookup_filter_fst (kept : String → Prop) [DecidablePred kept] {name : String}
    {entries : List (String × PyJson)} :
    (entries.filter fun entry => kept entry.1).lookup name =
      if kept name then entries.lookup name else none := by
  induction entries with
  | nil => exact (ite_self none).symm
  | cons entry rest ih =>
      obtain ⟨key, value⟩ := entry
      by_cases same : name = key
      · subst same
        by_cases chosen : kept name
        · simp [chosen]
        · rw [if_neg chosen] at ih
          simpa [chosen] using ih
      · rw [List.filter_cons, List.lookup_cons, beq_eq_false_iff_ne.mpr same]
        split
        · rw [List.lookup_cons, beq_eq_false_iff_ne.mpr same, ih]
        · exact ih

theorem Append.lookup_item {name : String} :
    call.item.lookup name =
      (if name ∉ protectedKeys then call.attributes.lookup name else none).or
        (List.lookup name [("event_id", .str call.eventId), ("user_id", .str call.userId),
          ("event_type", .str call.eventType), ("created_at", .str call.createdAt)]) := by
  have distinct := call.distinct.sublist
    ((List.filter_sublist (p := fun entry => decide (entry.1 ∉ protectedKeys))).map Prod.fst)
  rw [Append.item, eventItem, lookup_foldl_set distinct, lookup_filter_fst (· ∉ protectedKeys)]

/-- The attributes do not overwrite the type of the event. -/
theorem bearsSubscription_item :
    bearsSubscription call.item = decide (call.eventType ∈ subscriptionEventTypes) := by
  have typed : str? call.item "event_type" = some call.eventType := by
    rw [str?, call.lookup_item, if_neg (by decide)]
    rfl
  rw [bearsSubscription, typed, Option.any_some]

theorem stripeCustomerId_item : stripeCustomerId call.item = stripeCustomerId call.attributes := by
  unfold stripeCustomerId PyJson.get PyJson.getD
  rw [call.lookup_item, if_pos (by decide)]
  cases call.attributes.lookup "stripe_customer_id" <;> rfl

end Items

/-! ## The rows of a user -/

section Rows

variable {calls : List Append} {call : Append} {userId : String}

/-- Removing a key leaves the rows that do not have it. -/
theorem filter_kerase {κ ν : Type*} [DecidableEq κ] {key : κ}
    {entries : List (Sigma fun _ : κ => ν)} {chosen : (Sigma fun _ : κ => ν) → Bool}
    (other : ∀ entry ∈ entries, chosen entry = true → entry.1 ≠ key) :
    (entries.kerase key).filter chosen = entries.filter chosen := by
  induction entries with
  | nil => rfl
  | cons entry rest ih =>
      obtain ⟨here, later⟩ := List.forall_mem_cons.mp other
      by_cases same : entry.1 = key
      · have skipped : chosen entry ≠ true := fun holds => here holds same
        rw [List.kerase_cons_eq same.symm, List.filter_cons_of_neg skipped]
      · rw [List.kerase_cons_ne (Ne.symm same), List.filter_cons, List.filter_cons, ih later]

theorem apply_eq (log : EventLog) (call : Append) :
    call.apply log = if call.fault = .lost then log
      else log.insert (eventKey call.userId call.eventId) call.item := by
  unfold Append.apply append
  cases call.fault <;> rfl

theorem history_concat : history (calls ++ [call]) = call.apply (history calls) := by
  rw [history, List.foldl_append]
  rfl

theorem appended_concat :
    appended (calls ++ [call]) userId =
      appended calls userId ++ if call.userId = userId ∧ call.fault ≠ .lost then [call] else [] := by
  rw [appended, List.filter_append, appended, List.filter_singleton]
  by_cases mine : call.userId = userId ∧ call.fault ≠ .lost
  · rw [if_pos mine, decide_eq_true mine]
    rfl
  · rw [if_neg mine, decide_eq_false mine]
    rfl

/-- The rows of the log with the user's partition key. -/
def userRows (log : EventLog) (userId : String) : List (Sigma fun _ : EventKey => EventItem) :=
  log.entries.filter fun entry => entry.1.1 = userPk userId ∧ IsEventSk entry.1.2

/-- **The rows of a user are those of its appends, the newest first.** -/
theorem userRows_history
    (increasing : (calls.filter (·.userId = userId)).Pairwise
      fun earlier later => earlier.timestampMs < later.timestampMs) :
    userRows (history calls) userId = ((appended calls userId).map Append.row).reverse := by
  induction calls using List.reverseRecOn with
  | nil => rfl
  | append_singleton past call ih =>
      rw [List.filter_append] at increasing
      obtain ⟨earlier, -, before⟩ := List.pairwise_append.mp increasing
      have rows := ih earlier
      rw [history_concat, appended_concat, apply_eq]
      by_cases lost : call.fault = .lost
      · rw [if_pos lost, if_neg fun both => both.2 lost, List.append_nil]
        exact rows
      · rw [if_neg lost]
        by_cases mine : call.userId = userId
        · subst mine
          -- the new key is later than those of the user's rows
          have fresh : eventKey call.userId call.eventId ∉ history past := by
            intro member
            obtain ⟨item, held⟩ := Option.isSome_iff_exists.mp (AList.lookup_isSome.mpr member)
            have row : (⟨eventKey call.userId call.eventId, item⟩ :
                Sigma fun _ : EventKey => EventItem) ∈ userRows (history past) call.userId :=
              List.mem_filter.mpr ⟨AList.mem_lookup_iff.mp held,
                decide_eq_true ⟨rfl, isEventSk_eventSk _⟩⟩
            rw [rows, List.mem_reverse] at row
            obtain ⟨other, appended, same⟩ := List.mem_map.mp row
            obtain ⟨place, both⟩ := List.mem_filter.mp appended
            have owned := (of_decide_eq_true both).1
            have less := before other (List.mem_filter.mpr ⟨place, decide_eq_true owned⟩) call
              (by simp)
            have small : call.timestampMs < 2 ^ 50 := call.inYears.trans (by decide)
            have sorted := eventSk_newUlid_lt less small other.randomBits call.randomBits
            have keys : eventSk other.eventId = eventSk call.eventId :=
              congrArg (fun entry => entry.1.2) same
            exact absurd keys sorted.ne
          rw [if_pos ⟨rfl, lost⟩, userRows, AList.entries_insert_of_notMem fresh,
            List.filter_cons_of_pos (by exact decide_eq_true ⟨rfl, isEventSk_eventSk _⟩),
            List.map_append, List.reverse_append]
          exact congrArg (call.row :: ·) rows
        · have skipped : ¬ (call.userId = userId ∧ call.fault ≠ .lost) := fun both => mine both.1
          rw [if_neg skipped, List.append_nil, ← rows, userRows, AList.entries_insert,
            List.filter_cons_of_neg, filter_kerase]
          · rfl
          · intro entry member chosen same
            have pk := (of_decide_eq_true chosen).1
            rw [same] at pk
            exact mine (userPk_injective pk)
          · intro chosen
            exact mine (userPk_injective (of_decide_eq_true chosen).1)

/-- The user's rows are in the order that a query reads them in. -/
theorem eventRows_history
    (increasing : (calls.filter (·.userId = userId)).Pairwise
      fun earlier later => earlier.timestampMs < later.timestampMs) :
    eventRows (history calls) userId = ((appended calls userId).map Append.row).reverse := by
  have rows := userRows_history increasing
  have sorted : (((appended calls userId).map Append.row).reverse).Pairwise fun first second =>
      OrderDual.toDual first.1.2 ≤ OrderDual.toDual second.1.2 := by
    have applied : (appended calls userId).Sublist (calls.filter (·.userId = userId)) := by
      refine List.monotone_filter_right calls fun call both => ?_
      exact decide_eq_true (of_decide_eq_true both).1
    rw [List.pairwise_reverse, List.pairwise_map]
    refine (increasing.sublist applied).imp fun {earlier later} less => ?_
    have small : later.timestampMs < 2 ^ 50 := later.inYears.trans (by decide)
    exact (eventSk_newUlid_lt less small earlier.randomBits later.randomBits).le
  rw [eventRows, PagedQuery.inOrder]
  rw [userRows] at rows
  rw [rows]
  exact sorted.insertionSort_eq

end Rows

/-- **The readers find what the last append says that says anything**, however the query for a
user's events is split into pages. -/
theorem latest_of_history (calls : List Append) (userId : String)
    (increasing : (calls.filter (·.userId = userId)).Pairwise
      fun earlier later => earlier.timestampMs < later.timestampMs)
    (pages : List (List EventItem)) (split : pages.flatten = events (history calls) userId) :
    latestSubscriptionEvent pages =
        ((appended calls userId).filter fun call =>
          call.eventType ∈ subscriptionEventTypes).getLast?.map Append.item ∧
      findCustomerId pages =
        ((appended calls userId).filterMap fun call =>
          stripeCustomerId call.attributes).getLast? := by
  rw [latestSubscriptionEvent_eq, findCustomerId_eq, split, events, eventRows_history increasing,
    ← List.map_reverse, List.map_map]
  constructor
  · have same : bearsSubscription ∘ Sigma.snd ∘ Append.row =
        fun call : Append => decide (call.eventType ∈ subscriptionEventTypes) :=
      funext bearsSubscription_item
    rw [List.find?_map, same, List.getLast?_eq_head?_reverse, ← List.filter_reverse,
      List.head?_filter]
    rfl
  · have same : stripeCustomerId ∘ Sigma.snd ∘ Append.row =
        fun call : Append => stripeCustomerId call.attributes :=
      funext stripeCustomerId_item
    rw [List.findSome?_map, same, List.getLast?_eq_head?_reverse, ← List.filterMap_reverse,
      List.head?_filterMap]

/-- A new customer, and the update of a subscription a second later. -/
def sampleAppends : List Append :=
  [⟨"u-1", "customer_created", [("stripe_customer_id", .str "cus_1")], by decide, 1778457600000,
      by decide, 7, "2026-05-11T00:00:00+00:00", .none⟩,
    ⟨"u-1", "subscription_updated", [("tier", .str "pro")], by decide, 1778457601000, by decide, 3,
      "2026-05-11T00:00:01+00:00", .none⟩]

theorem latest_of_sampleAppends :
    latestSubscriptionEvent [[], events (history sampleAppends) "u-1", []] =
        ((appended sampleAppends "u-1").filter fun call =>
          call.eventType ∈ subscriptionEventTypes).getLast?.map Append.item ∧
      findCustomerId [[], events (history sampleAppends) "u-1", []] =
        ((appended sampleAppends "u-1").filterMap fun call =>
          stripeCustomerId call.attributes).getLast? :=
  latest_of_history sampleAppends "u-1" (by decide +kernel) _ (by simp)

end Panakoes.Billing
