import Mathlib.Data.String.Basic
import Panakoes.Billing.WebhookCrash
import Panakoes.Foundation.DynamoItem
import Panakoes.Foundation.PagedQuery
import Panakoes.Foundation.Run

/-! # The subscription that a user is shown

`GET /subscription` reads the latest event of the log that bears a subscription; `get_plan` reads
the subscriptions table. The log has events that the table has not seen, and of those that both
have seen the reader skips one type. As long as what is written to the table is also what the
reader finds next, the two agree wherever the event found says that there is access.
-/

namespace Panakoes.Billing

open Transition ConditionalWrite DynamoItem

/-! ## Reading the log -/

/-- `_SUBSCRIPTION_EVENT_TYPES`. -/
def subscriptionEventTypes : List String :=
  ["checkout_completed", "subscription_updated", "subscription_deleted", "invoice_paid",
    "invoice_payment_failed"]

/-- `event.get("event_type") in _SUBSCRIPTION_EVENT_TYPES`. -/
def bearsSubscription (item : EventItem) : Bool :=
  (str? item "event_type").any fun eventType => eventType ∈ subscriptionEventTypes

/-- The prefix of the sort keys that are asked for. -/
def IsEventSk (sk : String) : Prop := "EVENT#".toList <+: sk.toList

instance (sk : String) : Decidable (IsEventSk sk) := inferInstanceAs (Decidable (_ <+: _))

/-- The user's events, the newest first. -/
def eventRows (log : EventLog) (userId : String) : List (Sigma fun _ : EventKey => EventItem) :=
  PagedQuery.inOrder (fun entry => OrderDual.toDual entry.1.2)
    (log.entries.filter fun entry => entry.1.1 = userPk userId ∧ IsEventSk entry.1.2)

/-- The items that the queries for a user's events return, over all pages. -/
def events (log : EventLog) (userId : String) : List EventItem :=
  (eventRows log userId).map Sigma.snd

/-- `BillingEventStore.latest_subscription_event`, over the pages that its queries return. -/
def latestSubscriptionEvent : List (List EventItem) → Option EventItem
  | [] => none
  | page :: rest => (page.find? bearsSubscription).or (latestSubscriptionEvent rest)

/-- `SubscriptionStatus`. -/
inductive SubscriptionStatus where
  | active
  | pastDue
  | canceled
  | incomplete
  | incompleteExpired
  | trialing
  | unpaid
  | paused
  deriving DecidableEq

/-- The text of the literal. -/
def SubscriptionStatus.text : SubscriptionStatus → String
  | .active => "active"
  | .pastDue => "past_due"
  | .canceled => "canceled"
  | .incomplete => "incomplete"
  | .incompleteExpired => "incomplete_expired"
  | .trialing => "trialing"
  | .unpaid => "unpaid"
  | .paused => "paused"

/-- The members of the literal. -/
def SubscriptionStatus.all : List SubscriptionStatus :=
  [.active, .pastDue, .canceled, .incomplete, .incompleteExpired, .trialing, .unpaid, .paused]

/-- `safe_status`. -/
def safeStatus (text : String) : Option SubscriptionStatus :=
  SubscriptionStatus.all.find? fun status => status.text = text

/-- `safe_tier`. -/
def safeTier : String → Option Tier
  | "pro" => some .pro
  | "team" => some .team
  | _ => none

/-- `SubscriptionView`. -/
structure SubscriptionView where
  tier : Option Tier
  status : Option SubscriptionStatus
  currentPeriodEnd : Option Datetime

/-- The view of an event, with `datetime.fromisoformat`. -/
def SubscriptionView.ofEvent (fromisoformat : String → Option Datetime) :
    Option EventItem → SubscriptionView
  | none => ⟨none, none, none⟩
  | some event =>
      { tier := (str? event "tier").bind safeTier
        status := (str? event "status").bind safeStatus
        currentPeriodEnd :=
          ((str? event "current_period_end").filter (· ≠ "")).bind fromisoformat }

/-- `get_subscription`. -/
def getSubscription (fromisoformat : String → Option Datetime) (pages : List (List EventItem)) :
    SubscriptionView :=
  .ofEvent fromisoformat (latestSubscriptionEvent pages)

/-- The reported status grants access. -/
def SubscriptionView.Grants (view : SubscriptionView) : Prop :=
  ∃ status ∈ view.status, grantsAccess status.text = true

/-- The plan of a tier; none is free. -/
def planOfTier : Option Tier → Plan
  | none => .free
  | some .pro => .pro
  | some .team => .team

/-- If the reported status grants access, the reported tier is the plan. -/
def ViewAgrees (fromisoformat : String → Option Datetime) (stores : Stores) (userId : String) :
    Prop :=
  ∀ pages : List (List EventItem), pages.flatten = events stores.eventLog userId →
    (getSubscription fromisoformat pages).Grants →
      planOfTier (getSubscription fromisoformat pages).tier = getPlan stores.subscriptions userId

/-! ## The event that is found -/

/-- The first of the user's events that bears a subscription. -/
def reported (log : EventLog) (userId : String) : Option EventItem :=
  (events log userId).find? bearsSubscription

/-- How the events are paged makes no difference. -/
theorem latestSubscriptionEvent_eq (pages : List (List EventItem)) :
    latestSubscriptionEvent pages = pages.flatten.find? bearsSubscription := by
  induction pages with
  | nil => rfl
  | cons page rest ih => rw [latestSubscriptionEvent, ih, List.flatten_cons, List.find?_append]

/-- An event of the user that bears a subscription. -/
structure Bearing (log : EventLog) (userId sk : String) (item : EventItem) : Prop where
  held : log.lookup (userPk userId, sk) = some item
  isEvent : IsEventSk sk
  bears : bearsSubscription item = true

section Log

variable {log : EventLog} {userId owner sk ulid : String} {item found : EventItem}

theorem mem_eventRows {entry : Sigma fun _ : EventKey => EventItem} :
    entry ∈ eventRows log userId ↔
      log.lookup entry.1 = some entry.2 ∧ entry.1.1 = userPk userId ∧ IsEventSk entry.1.2 := by
  rw [eventRows, PagedQuery.mem_inOrder, List.mem_filter, decide_eq_true_iff]
  exact and_congr_left' AList.mem_lookup_iff.symm

/-- The event found is the one with the greatest sort key. -/
theorem reported_eq_some_iff : reported log userId = some item ↔
    ∃ sk, Bearing log userId sk item ∧
      ∀ other found, Bearing log userId other found → other ≤ sk := by
  have greatest : ∀ {item}, reported log userId = some item → ∃ sk, Bearing log userId sk item ∧
      ∀ other found, Bearing log userId other found → other ≤ sk := by
    intro item isReported
    rw [reported, events, List.find?_map] at isReported
    obtain ⟨⟨⟨pk, sk⟩, event⟩, first, rfl⟩ := Option.map_eq_some_iff.mp isReported
    obtain ⟨held, mine, isEvent⟩ := mem_eventRows.mp (List.mem_of_find?_eq_some first)
    dsimp only at held mine isEvent
    subst mine
    have bears := List.find?_some first
    refine ⟨sk, ⟨held, isEvent, bears⟩, ?_⟩
    intro other found bearing
    have member : (⟨(userPk userId, other), found⟩ : Sigma fun _ : EventKey => EventItem) ∈
        eventRows log userId := mem_eventRows.mpr ⟨bearing.held, rfl, bearing.isEvent⟩
    rw [eventRows, PagedQuery.mem_inOrder] at member
    exact PagedQuery.le_of_find?_inOrder first member bearing.bears
  refine ⟨greatest, ?_⟩
  intro ⟨sk, bearing, newest⟩
  have some : (reported log userId).isSome := by
    rw [reported, List.find?_isSome]
    refine ⟨item, List.mem_map.mpr ⟨⟨(userPk userId, sk), item⟩, ?_, rfl⟩, bearing.bears⟩
    exact mem_eventRows.mpr ⟨bearing.held, rfl, bearing.isEvent⟩
  obtain ⟨other, first⟩ := Option.isSome_iff_exists.mp some
  obtain ⟨otherSk, otherBearing, otherNewest⟩ := greatest first
  have same : otherSk = sk :=
    le_antisymm (newest otherSk other otherBearing) (otherNewest sk item bearing)
  subst same
  rw [first, ← otherBearing.held, bearing.held]

theorem userPk_injective : Function.Injective userPk := fun _ _ same =>
  (String.append_right_inj "USER#").mp same

theorem isEventSk_eventSk (eventId : String) : IsEventSk (eventSk eventId) := by
  rw [IsEventSk, eventSk, String.toList_append]
  exact List.prefix_append _ _

/-- An event is appended. -/
theorem bearing_insert (unused : log.Unused ulid) :
    Bearing (log.insert (eventKey owner ulid) item) userId sk found ↔
      Bearing log userId sk found ∨
        (userId = owner ∧ sk = eventSk ulid ∧ found = item ∧ bearsSubscription item = true) := by
  constructor
  · intro ⟨held, isEvent, bears⟩
    rcases Table.lookup_insert_cases held with ⟨same, rfl⟩ | ⟨-, before⟩
    · obtain ⟨samePk, sameSk⟩ := Prod.mk.inj same
      exact Or.inr ⟨userPk_injective samePk, sameSk, rfl, bears⟩
    · exact Or.inl ⟨before, isEvent, bears⟩
  · rintro (⟨held, isEvent, bears⟩ | ⟨rfl, rfl, rfl, bears⟩)
    · refine ⟨?_, isEvent, bears⟩
      rw [AList.lookup_insert_ne]
      · exact held
      · intro same
        apply unused.eventKey_notMem owner
        rw [← same]
        exact AList.lookup_isSome.mp (held ▸ rfl)
    · exact ⟨AList.lookup_insert _, isEventSk_eventSk ulid, bears⟩

/-- An event that is appended is found, or what was found before. -/
theorem reported_insert_cases (unused : log.Unused ulid) :
    reported (log.insert (eventKey owner ulid) item) userId = reported log userId ∨
      (userId = owner ∧ reported (log.insert (eventKey owner ulid) item) userId = some item) := by
  by_cases newest : userId = owner ∧ bearsSubscription item = true ∧
      ∀ other found, Bearing log userId other found → other ≤ eventSk ulid
  · obtain ⟨rfl, bears, newest⟩ := newest
    refine Or.inr ⟨rfl, reported_eq_some_iff.mpr ⟨eventSk ulid, ?_, ?_⟩⟩
    · exact (bearing_insert unused).mpr (Or.inr ⟨rfl, rfl, rfl, bears⟩)
    · intro other found bearing
      rcases (bearing_insert unused).mp bearing with before | ⟨-, rfl, -⟩
      · exact newest other found before
      · exact le_rfl
  · refine Or.inl (Option.ext fun found => ?_)
    rw [reported_eq_some_iff, reported_eq_some_iff]
    constructor
    · intro ⟨sk, bearing, greatest⟩
      have old : ∀ other found, Bearing log userId other found → other ≤ sk :=
        fun other found before => greatest other found ((bearing_insert unused).mpr (Or.inl before))
      rcases (bearing_insert unused).mp bearing with before | ⟨mine, rfl, -, bears⟩
      · exact ⟨sk, before, old⟩
      · exact absurd ⟨mine, bears, old⟩ newest
    · intro ⟨sk, bearing, greatest⟩
      refine ⟨sk, (bearing_insert unused).mpr (Or.inl bearing), ?_⟩
      intro other found later
      rcases (bearing_insert unused).mp later with before | ⟨mine, rfl, -, bears⟩
      · exact greatest other found before
      · by_contra beyond
        refine newest ⟨mine, bears, fun other found before => ?_⟩
        exact (greatest other found before).trans (not_le.mp beyond).le

/-- An event that bears a subscription is found if its id is later than those before. -/
theorem reported_insert_newest (unused : log.Unused ulid) (bears : bearsSubscription item = true)
    (newest : ∀ sk found, Bearing log owner sk found → sk ≤ eventSk ulid) :
    reported (log.insert (eventKey owner ulid) item) owner = some item := by
  refine reported_eq_some_iff.mpr ⟨eventSk ulid, ?_, ?_⟩
  · exact (bearing_insert unused).mpr (Or.inr ⟨rfl, rfl, rfl, bears⟩)
  · intro other found bearing
    rcases (bearing_insert unused).mp bearing with before | ⟨-, rfl, -⟩
    · exact newest other found before
    · exact le_rfl

end Log

/-! ## What is appended -/

section Items

variable {item fields : List (String × PyJson)} {name : String}

theorem lookup_of_new {β : Type*} {entries : List (String × β)}
    (new : name ∉ entries.map Prod.fst) : entries.lookup name = none := by
  rw [List.lookup_eq_none_iff]
  intro entry member
  exact bne_iff_ne.mpr fun same => new (same ▸ List.mem_map.mpr ⟨entry, member, rfl⟩)

/-- Attributes with different names, merged into an item. -/
theorem lookup_foldl_set (distinct : (fields.map Prod.fst).Nodup) :
    (fields.foldl (fun item field => PyJson.set item field.1 field.2) item).lookup name =
      (fields.lookup name).or (item.lookup name) := by
  induction fields generalizing item with
  | nil => rfl
  | cons field rest ih =>
      obtain ⟨key, value⟩ := field
      obtain ⟨new, distinct⟩ := List.nodup_cons.mp distinct
      rw [List.foldl_cons, ih distinct, PyJson.set, PyJson.lookup_put, List.lookup_cons]
      by_cases same : name = key
      · subst same
        rw [lookup_of_new new, if_pos rfl, beq_self_eq_true]
        rfl
      · rw [if_neg same, beq_eq_false_iff_ne.mpr same]

/-- The attributes that have a text. -/
def texts (fields : List (String × Option String)) : List (String × PyJson) :=
  fields.filterMap fun (key, value) => value.map fun text => (key, .str text)

theorem keys_texts (fields : List (String × Option String)) :
    ((texts fields).map Prod.fst).Sublist (fields.map Prod.fst) := by
  induction fields with
  | nil => exact .slnil
  | cons field rest ih =>
      obtain ⟨key, value⟩ := field
      cases value with
      | none => exact ih.cons _
      | some text => exact ih.cons_cons _

theorem lookup_texts {fields : List (String × Option String)}
    (distinct : (fields.map Prod.fst).Nodup) :
    (texts fields).lookup name = (fields.lookup name).join.map .str := by
  induction fields with
  | nil => rfl
  | cons field rest ih =>
      obtain ⟨key, value⟩ := field
      obtain ⟨new, later⟩ := List.nodup_cons.mp distinct
      rw [List.lookup_cons]
      by_cases same : name = key
      · subst same
        cases value with
        | none =>
            have skipped : texts ((name, none) :: rest) = texts rest := rfl
            rw [skipped, ih later, lookup_of_new new, beq_self_eq_true]
            rfl
        | some text =>
            have kept : texts ((name, some text) :: rest) = (name, .str text) :: texts rest := rfl
            rw [kept, List.lookup_cons, beq_self_eq_true]
            rfl
      · rw [beq_eq_false_iff_ne.mpr same]
        dsimp only
        rw [← ih later]
        cases value with
        | none => rfl
        | some text =>
            have kept : texts ((key, some text) :: rest) = (key, .str text) :: texts rest := rfl
            rw [kept, List.lookup_cons, beq_eq_false_iff_ne.mpr same]

end Items

/-- The text of a tier. -/
def tierText : Tier → String
  | .pro => "pro"
  | .team => "team"

section Work

variable {service : Service} {event : Event} {work : WebhookWork} {projection : Projection}
  {ulid now name : String}

/-- The attributes of an event by their names. -/
def EventAttributes.fields (attributes : EventAttributes) : List (String × Option String) :=
  [("stripe_event_type", some attributes.stripeEventType),
    ("stripe_customer_id", attributes.stripeCustomerId),
    ("stripe_subscription_id", attributes.stripeSubscriptionId),
    ("status", attributes.status),
    ("current_period_end", attributes.currentPeriodEnd.map Datetime.isoformat),
    ("stripe_price_id", attributes.stripePriceId),
    ("tier", attributes.tier.map tierText)]

theorem entries_eq_texts (attributes : EventAttributes) :
    attributes.entries = texts attributes.fields := rfl

/-- The names are different, and none of them is protected. -/
theorem names_fields (attributes : EventAttributes) :
    (attributes.fields.map Prod.fst).Nodup ∧
      ∀ name ∈ attributes.fields.map Prod.fst, name ∉ protectedKeys := by
  have names : attributes.fields.map Prod.fst =
      ["stripe_event_type", "stripe_customer_id", "stripe_subscription_id", "status",
        "current_period_end", "stripe_price_id", "tier"] := rfl
  rw [names]
  decide

/-- What is read of an item that a webhook has appended. -/
theorem lookup_item (work : WebhookWork) (ulid now : String) :
    (work.item ulid now).lookup name =
      ((work.attributes.fields.lookup name).join.map .str).or
        ([("event_id", .str ulid), ("user_id", .str work.userId),
          ("event_type", .str work.internalEventType), ("created_at", .str now)].lookup name) := by
  obtain ⟨distinct, unprotected⟩ := names_fields work.attributes
  have merged : work.attributes.entries.filter (·.1 ∉ protectedKeys) =
      texts work.attributes.fields := by
    rw [entries_eq_texts]
    refine List.filter_eq_self.mpr fun entry member => decide_eq_true ?_
    exact unprotected entry.1 ((keys_texts _).subset (List.mem_map.mpr ⟨entry, member, rfl⟩))
  rw [WebhookWork.item, eventItem, merged, lookup_foldl_set ((keys_texts _).nodup distinct),
    lookup_texts distinct]

@[simp] theorem str?_item_eventType :
    str? (work.item ulid now) "event_type" = some work.internalEventType := by
  rw [str?, lookup_item]
  rfl

@[simp] theorem str?_item_status : str? (work.item ulid now) "status" = work.attributes.status := by
  have held : work.attributes.fields.lookup "status" = some work.attributes.status := rfl
  rw [str?, lookup_item, held]
  cases work.attributes.status with
  | none => rfl
  | some status => rfl

@[simp] theorem str?_item_tier :
    str? (work.item ulid now) "tier" = work.attributes.tier.map tierText := by
  have held : work.attributes.fields.lookup "tier" =
      some (work.attributes.tier.map tierText) := rfl
  rw [str?, lookup_item, held]
  cases work.attributes.tier with
  | none => rfl
  | some tier => rfl

/-- Unless the subscription is deleted, the row has the event's plan, and its status if it has
one. -/
theorem state_of_subscriptionState {eventType : String} {eventObject : EventObject}
    {attributes : EventAttributes} {state : SubscriptionState}
    (read : subscriptionState service eventType eventObject attributes = .ok state)
    (goesOn : eventType ≠ "customer.subscription.deleted") :
    state.plan = planFromAttributes attributes ∧
      ∀ status ∈ attributes.status, state.status = status := by
  obtain ⟨cancelAt, -, made⟩ := Except.bind_eq_ok.mp read
  cases made
  refine ⟨if_neg goesOn, fun status held => ?_⟩
  have kept : statusOf service eventObject attributes = status := by
    rw [statusOf, Option.mem_def.mp held]
  exact (if_neg goesOn).trans kept

/-- What an event is projected onto is a row of its user. -/
theorem projection_of_read (read : readEvent service event = .acts work)
    (writes : work.projection = some projection) :
    projection.tenantId = work.userId ∧ (work.internalEventType ≠ "subscription_deleted" →
      projection.state.plan = planFromAttributes work.attributes ∧
        ∀ status ∈ work.attributes.status, projection.state.status = status) := by
  unfold readEvent at read
  split at read
  · split at read
    · cases read
    · rename_i stripeEventType _ _ internalEventType mapped
      dsimp only at read
      split at read
      · cases read
      · rename_i userId _
        split at read
        · cases read
        · rename_i made computed
          cases read
          obtain ⟨extracted, -, computed⟩ := Except.bind_eq_ok.mp computed
          obtain ⟨projected, projects, made⟩ := Except.bind_eq_ok.mp computed
          cases made
          dsimp only at writes ⊢
          subst writes
          unfold readProjection at projects
          split at projects
          · split at projects
            · obtain ⟨state, stated, made⟩ := Except.map_eq_ok.mp projects
              cases made
              refine ⟨rfl, fun goesOn => state_of_subscriptionState stated ?_⟩
              intro deleted
              subst deleted
              cases mapped
              exact goesOn rfl
            · cases projects
          · cases projects
  · cases read

end Work

/-! ## Conditions on a delivery -/

/-- The item's status grants access. -/
def HasAccess (item : EventItem) : Prop := ∃ status ∈ str? item "status", grantsAccess status = true

/-- The status that the user is shown grants access. -/
def ReportsAccess (log : EventLog) (userId : String) : Prop :=
  ∃ item ∈ reported log userId, HasAccess item

instance (item : EventItem) : Decidable (HasAccess item) :=
  inferInstanceAs (Decidable (∃ status ∈ str? item "status", _))

instance (log : EventLog) (userId : String) : Decidable (ReportsAccess log userId) :=
  inferInstanceAs (Decidable (∃ item ∈ reported log userId, _))

/-- An event of a user with one subscription, as Stripe makes it: what it is about is the
subscription or has no access, and neither a deletion nor an event that is about no subscription,
such as one of an invoice, has a status of a subscription with access. -/
structure OneSubscription (service : Service) (userId subscriptionId : String) (event : Event) :
    Prop where
  row : ∀ work projection, readEvent service event = .acts work → work.userId = userId →
    work.projection = some projection →
      projection.subscriptionId = subscriptionId ∨ grantsAccess projection.state.status = false
  silent : ∀ work, readEvent service event = .acts work → work.userId = userId →
    work.projection = none ∨ work.internalEventType = "subscription_deleted" →
      ∀ status ∈ work.attributes.status, grantsAccess status = false

/-- The event that the delivery writes to the subscriptions table is what is found next in the
log: both writes go through, the reader looks for its type, and its id is later than those before
it. -/
structure Published (stores : Stores) (delivery : Delivery) (work : WebhookWork) : Prop where
  returned : delivery.upsertFault = .none
  appended : delivery.appendFault ≠ .lost
  bears : work.internalEventType ∈ subscriptionEventTypes
  newest : ∀ sk found, Bearing stores.eventLog work.userId sk found → sk ≤ eventSk delivery.ulid

/-- An event that replaces the row of the subscription while access is reported is published. -/
def KeepsUp (service : Service) (userId subscriptionId : String) (stores : Stores)
    (delivery : Delivery) : Prop :=
  ∀ work projection, readEvent service delivery.event = .acts work →
    work.projection = some projection → projection.key = (userId, subscriptionId) →
      ¬ projection.Applied stores.subscriptions → delivery.upsertFault ≠ .lost →
        ReportsAccess stores.eventLog userId → Published stores delivery work

/-! ## The two views -/

/-- No other row of the user has access, and where the event found has, its tier is what the row of
the subscription entitles to. -/
structure InStep (stores : Stores) (userId subscriptionId : String) : Prop where
  single : ∀ other row, stores.subscriptions.lookup (userId, other) = some row →
    other = subscriptionId ∨ grantsAccess row.status = false
  agrees : ∀ item ∈ reported stores.eventLog userId, HasAccess item →
    planOfTier ((str? item "tier").bind safeTier) =
      stores.subscriptions.entitlement (userId, subscriptionId)

section Views

variable {service : Service} {stores next : Stores} {delivery : Delivery} {work : WebhookWork}
  {projection : Projection} {userId subscriptionId ulid now : String}

/-- The plan is what the one row entitles to. -/
theorem getPlan_of_single {table : SubscriptionTable}
    (single : ∀ other row, table.lookup (userId, other) = some row →
      other = subscriptionId ∨ grantsAccess row.status = false) :
    getPlan table userId = table.entitlement (userId, subscriptionId) := by
  apply le_antisymm
  · rcases le_getPlan_iff.mp (le_refl (getPlan table userId)) with free | paid
    · rw [free]
      exact bot_le
    · obtain ⟨other, row, held, reaches⟩ := paid
      rcases single other row held with same | denied
      · subst same
        rw [SubscriptionTable.entitlement, held]
        exact reaches
      · refine reaches.trans ?_
        rw [SubscriptionRow.entitlement, entitled, denied]
        exact bot_le
  · exact (isLUB_getPlan table userId).1 ⟨subscriptionId, rfl⟩

theorem text_of_safeStatus {text : String} {status : SubscriptionStatus}
    (safe : safeStatus text = some status) : status.text = text := by
  unfold safeStatus at safe
  have holds := List.find?_some safe
  exact of_decide_eq_true holds

theorem InStep.viewAgrees (inStep : InStep stores userId subscriptionId)
    (fromisoformat : String → Option Datetime) : ViewAgrees fromisoformat stores userId := by
  intro pages paged grants
  have found : latestSubscriptionEvent pages = reported stores.eventLog userId := by
    rw [latestSubscriptionEvent_eq, paged, reported]
  unfold getSubscription at grants ⊢
  rw [found] at grants ⊢
  rw [getPlan_of_single inStep.single]
  cases first : reported stores.eventLog userId with
  | none =>
      rw [first] at grants
      obtain ⟨status, none, -⟩ := grants
      cases none
  | some item =>
      rw [first] at grants
      obtain ⟨status, safe, access⟩ := grants
      obtain ⟨text, read, safe⟩ := Option.bind_eq_some_iff.mp safe
      refine inStep.agrees item first ⟨text, read, ?_⟩
      rw [← text_of_safeStatus safe]
      exact access

/-- The tier of an event with access is what its row entitles to. -/
theorem planOfTier_item (read : readEvent service delivery.event = .acts work)
    (writes : work.projection = some projection)
    (goesOn : work.internalEventType ≠ "subscription_deleted") {status : String}
    (held : status ∈ work.attributes.status) (access : grantsAccess status = true) :
    planOfTier ((str? (work.item ulid now) "tier").bind safeTier) =
      (projection.item delivery.updatedAt).entitlement := by
  obtain ⟨-, rest⟩ := projection_of_read read writes
  obtain ⟨plan, same⟩ := rest goesOn
  have entitles : (projection.item delivery.updatedAt).entitlement = projection.state.plan := by
    unfold SubscriptionRow.entitlement entitled
    have kept : (projection.item delivery.updatedAt).status = status := same status held
    rw [kept, if_pos access]
    rfl
  rw [entitles, plan, str?_item_tier, planFromAttributes]
  cases work.attributes.tier with
  | none => rfl
  | some tier =>
      cases tier with
      | pro => rfl
      | team => rfl

/-- What a delivery appends is found, or what was found before. -/
theorem reported_cases {log : EventLog} (unused : stores.eventLog.Unused delivery.ulid)
    (appended : log = stores.eventLog ∨ log = stores.eventLog.insert
      (eventKey work.userId delivery.ulid) (work.item delivery.ulid delivery.createdAt)) :
    reported log userId = reported stores.eventLog userId ∨
      (userId = work.userId ∧
        reported log userId = some (work.item delivery.ulid delivery.createdAt)) := by
  rcases appended with same | inserted
  · exact Or.inl (same ▸ rfl)
  · rw [inserted]
    exact reported_insert_cases unused

theorem HasAccess.of_item (access : HasAccess (work.item ulid now)) :
    ∃ status ∈ work.attributes.status, grantsAccess status = true := by
  unfold HasAccess at access
  rwa [str?_item_status] at access

/-- An event that is projected onto no row is logged at most, and has no access. -/
theorem InStep.recordWork (inStep : InStep stores userId subscriptionId)
    (unused : stores.eventLog.Unused delivery.ulid)
    (silent : work.userId = userId →
      ∀ status ∈ work.attributes.status, grantsAccess status = false) :
    InStep (recordWork work delivery stores).1 userId subscriptionId := by
  have appended : (Billing.recordWork work delivery stores).1.eventLog = stores.eventLog ∨
      (Billing.recordWork work delivery stores).1.eventLog = stores.eventLog.insert
        (eventKey work.userId delivery.ulid) (work.item delivery.ulid delivery.createdAt) := by
    by_cases lost : delivery.appendFault = .lost
    · rw [recordWork_eventLog, append, lost]
      exact Or.inl rfl
    · exact Or.inr (recordWork_eventLog_of_arrives lost)
  constructor
  · rw [recordWork_subscriptions]
    exact inStep.single
  · intro item found access
    rw [recordWork_subscriptions]
    rcases @reported_cases stores delivery work userId _ unused appended with same | ⟨mine, new⟩
    · exact inStep.agrees item (same ▸ found) access
    · cases new.symm.trans found
      obtain ⟨status, held, grants⟩ := access.of_item
      exact absurd ((silent mine.symm status held).symm.trans grants) Bool.false_ne_true

/-- The row of an event is written. -/
theorem InStep.written (inStep : InStep stores userId subscriptionId)
    (one : OneSubscription service userId subscriptionId delivery.event)
    (keepsUp : KeepsUp service userId subscriptionId stores delivery)
    (unused : stores.eventLog.Unused delivery.ulid)
    (read : readEvent service delivery.event = .acts work)
    (writes : work.projection = some projection) (new : ¬ projection.Applied stores.subscriptions)
    (arrives : delivery.upsertFault ≠ .lost) :
    InStep (handleWebhook service stores delivery).1 userId subscriptionId := by
  obtain ⟨tenant, stated⟩ := projection_of_read read writes
  have table := handleWebhook_subscriptions_of_new (projectionOf_eq_some.mpr ⟨work, read, writes⟩)
    new arrives
  have log := @handleWebhook_eventLog_of_new service stores delivery projection work read writes new
  have appended : (handleWebhook service stores delivery).1.eventLog = stores.eventLog ∨
      (handleWebhook service stores delivery).1.eventLog = stores.eventLog.insert
        (eventKey work.userId delivery.ulid) (work.item delivery.ulid delivery.createdAt) := by
    rw [log]
    split
    · exact Or.inr rfl
    · exact Or.inl rfl
  have cases := @reported_cases stores delivery work userId _ unused appended
  -- a deletion has no access
  have goesOn : work.userId = userId → ∀ status ∈ work.attributes.status,
      grantsAccess status = true → work.internalEventType ≠ "subscription_deleted" := by
    intro mine status held grants deleted
    have silent := one.silent work read mine (Or.inr deleted) status held
    exact absurd (silent.symm.trans grants) Bool.false_ne_true
  constructor
  · intro other row held
    rw [table] at held
    rcases Table.lookup_insert_cases held with ⟨same, rfl⟩ | ⟨-, before⟩
    · obtain ⟨sameTenant, sameId⟩ := Prod.mk.inj same
      rw [sameId]
      exact one.row work projection read (tenant.symm.trans sameTenant.symm) writes
    · exact inStep.single other row before
  · intro item found access
    by_cases mine : projection.key = (userId, subscriptionId)
    · have owner : work.userId = userId := tenant.symm.trans (congrArg Prod.fst mine)
      have entitles : (handleWebhook service stores delivery).1.subscriptions.entitlement
          (userId, subscriptionId) = (projection.item delivery.updatedAt).entitlement := by
        rw [table, SubscriptionTable.entitlement, mine, AList.lookup_insert]
        rfl
      have published : reported (handleWebhook service stores delivery).1.eventLog userId =
          some (work.item delivery.ulid delivery.createdAt) := by
        rcases cases with same | ⟨-, latest⟩
        · have published := keepsUp work projection read writes mine new arrives
            ⟨item, same ▸ found, access⟩
          rw [log, if_pos ⟨published.returned, published.appended⟩, ← owner]
          apply reported_insert_newest unused
          · rw [bearsSubscription, str?_item_eventType]
            exact decide_eq_true published.bears
          · exact published.newest
        · exact latest
      cases published.symm.trans found
      obtain ⟨status, held, grants⟩ := access.of_item
      rw [entitles]
      exact planOfTier_item read writes (goesOn owner status held grants) held grants
    · have entitles : (handleWebhook service stores delivery).1.subscriptions.entitlement
          (userId, subscriptionId) = stores.subscriptions.entitlement (userId, subscriptionId) := by
        rw [table, SubscriptionTable.entitlement, AList.lookup_insert_ne (Ne.symm mine)]
        rfl
      rw [entitles]
      rcases cases with same | ⟨owner, latest⟩
      · exact inStep.agrees item (same ▸ found) access
      · cases latest.symm.trans found
        obtain ⟨status, held, grants⟩ := access.of_item
        have kept := (stated (goesOn owner.symm status held grants)).2 status held
        rcases one.row work projection read owner.symm writes with same | denied
        · exact absurd (Prod.ext (tenant.trans owner.symm) same) mine
        · rw [kept, grants] at denied
          cases denied

/-- **One delivery** keeps the two views in step. -/
theorem InStep.step (inStep : InStep stores userId subscriptionId)
    (one : OneSubscription service userId subscriptionId delivery.event)
    (keepsUp : KeepsUp service userId subscriptionId stores delivery)
    (taken : Billing.step service stores delivery = some next) :
    InStep next userId subscriptionId := by
  obtain ⟨unused, rfl⟩ := step_eq_some.mp taken
  cases read : readEvent service delivery.event with
  | ignored body =>
      simp only [handleWebhook, read]
      exact inStep
  | raises error =>
      simp only [handleWebhook, read]
      exact inStep
  | acts work =>
      cases writes : work.projection with
      | none =>
          rw [handleWebhook_unprojected read writes]
          exact inStep.recordWork unused fun mine => one.silent work read mine (Or.inl writes)
      | some projection =>
          by_cases applied : projection.Applied stores.subscriptions
          · rw [handleWebhook_of_applied read writes applied]
            exact inStep
          · by_cases lost : delivery.upsertFault = .lost
            · have projects := projectionOf_eq_some.mpr ⟨work, read, writes⟩
              rw [handleWebhook_of_lost projects applied lost]
              exact inStep
            · exact inStep.written one keepsUp unused read writes applied lost

variable {deliveries : List Delivery} {final : Stores}

/-- **The two views agree** after every run of deliveries in which each event that replaces the row
of the subscription while access is reported is also the event that is found next in the log. -/
theorem view_agrees (fromisoformat : String → Option Datetime)
    (conditions : Meets (Billing.step service)
      (fun _ stores delivery => OneSubscription service userId subscriptionId delivery.event ∧
        KeepsUp service userId subscriptionId stores delivery) [] Stores.empty deliveries)
    (run : execute (Billing.step service) Stores.empty deliveries = some final) :
    ViewAgrees fromisoformat final userId := by
  have start : InStep Stores.empty userId subscriptionId := by
    constructor
    · intro other row held
      cases held
    · intro item found
      cases found
  have kept : ∀ (_ : List Delivery) (before : Stores) delivery after,
      InStep before userId subscriptionId →
      (OneSubscription service userId subscriptionId delivery.event ∧
        KeepsUp service userId subscriptionId before delivery) →
      Billing.step service before delivery = some after → InStep after userId subscriptionId :=
    fun _ _ _ _ inStep conditions taken => inStep.step conditions.1 conditions.2 taken
  have inStep := @execute_invariant _ _ (Billing.step service) _ Stores.empty
    (fun stores => InStep stores userId subscriptionId) start kept deliveries final conditions run
  exact inStep.viewAgrees fromisoformat

/-! ## A subscription that becomes active, and a creation that is delivered late -/

theorem oneSubscription_of_acts {event : Event} (read : readEvent service event = .acts work)
    (writes : work.projection = some projection) (same : projection.subscriptionId = subscriptionId)
    (goesOn : work.internalEventType ≠ "subscription_deleted") :
    OneSubscription service userId subscriptionId event where
  row other written readAgain _ projects := by
    cases read.symm.trans readAgain
    cases writes.symm.trans projects
    exact Or.inl same
  silent other readAgain _ exempt := by
    cases read.symm.trans readAgain
    rcases exempt with none | deleted
    · cases writes.symm.trans none
    · exact absurd deleted goesOn

theorem keepsUp_of_not (quiet : ¬ ReportsAccess stores.eventLog userId) :
    KeepsUp service userId subscriptionId stores delivery :=
  fun _ _ _ _ _ _ _ reports => absurd reports quiet

end Views

/-- The subscription is created before it is paid for. -/
def incompleteEvent : Event :=
  subscriptionEvent "evt_create" "customer.subscription.created" "incomplete"

/-- Creation and update, in this order. -/
def creationThenUpdate : List Delivery :=
  [reliableDelivery incompleteEvent "1", reliableDelivery updateEvent "2"]

/-- The user is shown the plan. -/
theorem creationThenUpdate_agrees :
    ∃ final, execute (step sampleService) Stores.empty creationThenUpdate = some final ∧
      ReportsAccess final.eventLog "user_1" ∧ ViewAgrees (fun _ => none) final "user_1" := by
  have shown : (execute (step sampleService) Stores.empty creationThenUpdate).map
      (fun stores => decide (ReportsAccess stores.eventLog "user_1")) = some true := by
    decide +kernel
  obtain ⟨final, run, reports⟩ := Option.map_eq_some_iff.mp shown
  have conditions : Meets (step sampleService)
      (fun _ stores delivery => OneSubscription sampleService "user_1" "sub_1" delivery.event ∧
        KeepsUp sampleService "user_1" "sub_1" stores delivery) [] Stores.empty
      creationThenUpdate := by
    refine .cons ⟨?_, keepsUp_of_not ?_⟩ rfl (.cons ⟨?_, keepsUp_of_not ?_⟩ rfl trivial)
    · refine oneSubscription_of_acts rfl rfl rfl ?_
      decide
    · decide +kernel
    · refine oneSubscription_of_acts rfl rfl rfl ?_
      decide
    · decide +kernel
  exact ⟨final, run, of_decide_eq_true reports, view_agrees _ conditions run⟩

/-- Update and creation, in this order. -/
def updateThenCreation : List Delivery :=
  [reliableDelivery updateEvent "1", reliableDelivery incompleteEvent "2"]

/-- The user is shown an active subscription and has no plan. -/
theorem updateThenCreation_disagrees :
    ∃ final, execute (step sampleService) Stores.empty updateThenCreation = some final ∧
      getPlan final.subscriptions "user_1" = .free ∧
      ¬ ViewAgrees (fun _ => none) final "user_1" := by
  have shown : (execute (step sampleService) Stores.empty updateThenCreation).map
      (fun stores =>
        let view := getSubscription (fun _ => none) [events stores.eventLog "user_1"]
        (getPlan stores.subscriptions "user_1", view.tier, view.status)) =
      some (.free, some .pro, some .active) := by
    decide +kernel
  obtain ⟨final, run, same⟩ := Option.map_eq_some_iff.mp shown
  obtain ⟨plan, tier, status⟩ : getPlan final.subscriptions "user_1" = .free ∧
      (getSubscription (fun _ => none) [events final.eventLog "user_1"]).tier = some .pro ∧
      (getSubscription (fun _ => none) [events final.eventLog "user_1"]).status = some .active := by
    simpa only [Prod.mk.injEq] using same
  refine ⟨final, run, plan, fun agrees => ?_⟩
  have equal := agrees [events final.eventLog "user_1"] (List.append_nil _)
    ⟨.active, status, by decide⟩
  rw [tier, plan] at equal
  cases equal

end Panakoes.Billing
