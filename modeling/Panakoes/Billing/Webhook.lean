import Panakoes.Billing.BillingEventStore
import Panakoes.Billing.SubscriptionStore

/-! # The Stripe webhook handler

A delivery of a verified event is read, projected onto the subscriptions table
if it is about a subscription, appended to the event log, and audited. The
handler stops at the first call that fails, and Stripe delivers the event again.
-/

namespace Panakoes.Billing

open ConditionalWrite
open PyJson (get)

/-! ## Reading an event -/

/-- The row write of a subscription-state event. -/
structure Projection where
  tenantId : String
  subscriptionId : String
  stripeEventId : String
  state : SubscriptionState

/-- What the handler does with an event it acts on. -/
structure WebhookWork where
  userId : String
  internalEventType : String
  attributes : EventAttributes
  projection : Option Projection

/-- What the handler makes of an event before it writes anything. -/
inductive Reading where
  | ignored (body : List (String × String))
  | raises (error : PyError)
  | acts (work : WebhookWork)

/-- The row write of an event: there is none unless the event is a
subscription-state event with an id, and carries a subscription id. -/
def readProjection (service : Service) (stripeEventType : String) (stripeEventId : PyJson)
    (userId : String) (eventObject : EventObject) (attributes : EventAttributes) :
    Except PyError (Option Projection) :=
  match stripeEventId.nonemptyStr?, attributes.stripeSubscriptionId with
  | some eventId, some subscriptionId =>
      if stripeEventType ∈ subscriptionStateEvents then
        (subscriptionState service stripeEventType eventObject attributes).map fun state =>
          some ⟨userId, subscriptionId, eventId, state⟩
      else .ok none
  | _, _ => .ok none

/-- `handle_webhook` up to its first write. -/
def readEvent (service : Service) (event : Event) : Reading :=
  match get event "type" with
  | .str stripeEventType =>
      match webhookEventTypeMap.lookup stripeEventType with
      | none => .ignored [("status", "ignored"), ("stripe_event_type", stripeEventType)]
      | some internalEventType =>
          let eventObject := eventObjectOf event
          match userIdFromEvent eventObject with
          | none => .ignored [("status", "ignored"), ("reason", "no user id on event")]
          | some userId =>
              let read : Except PyError WebhookWork := do
                let extracted ← extractSubscriptionAttributes stripeEventType eventObject
                let attributes :=
                  { extracted with tier := tierOfPrice service.settings extracted.stripePriceId }
                let projection ← readProjection service stripeEventType (get event "id") userId
                  eventObject attributes
                return ⟨userId, internalEventType, attributes, projection⟩
              match read with
              | .error error => .raises error
              | .ok work => .acts work
  | _ => .ignored [("status", "ignored"), ("reason", "missing event type")]

/-! ## Handling a delivery -/

/-- The two tables. -/
structure Stores where
  subscriptions : SubscriptionTable
  eventLog : EventLog

/-- A delivery of an event: how each call of the handler ends, what the clock
says at the two writes, and the ULID drawn for the event log. -/
structure Delivery where
  event : Event
  upsertFault : Fault
  updatedAt : String
  appendFault : Fault
  ulid : String
  createdAt : String
  audited : Bool

/-- The body of a 200 answer, or the exception that becomes a 5xx answer. -/
abbrev Response := Except PyError (List (String × String))

/-- The key of the row that is written. -/
def Projection.key (projection : Projection) : SubscriptionKey :=
  (projection.tenantId, projection.subscriptionId)

/-- The row that is written. -/
def Projection.item (projection : Projection) (now : String) : SubscriptionRow :=
  projection.state.item projection.stripeEventId now

/-- The row the event is projected onto was last written by it. -/
def Projection.Applied (projection : Projection) (table : SubscriptionTable) : Prop :=
  table.Applied projection.key projection.stripeEventId

instance (projection : Projection) (table : SubscriptionTable) :
    Decidable (projection.Applied table) :=
  inferInstanceAs (Decidable (table.Applied _ _))

/-- The row write of `_apply_subscription_state`. -/
def Projection.upsert (projection : Projection) (delivery : Delivery) (table : SubscriptionTable) :
    Outcome SubscriptionTable :=
  Billing.upsert delivery.upsertFault table projection.key projection.stripeEventId
    projection.state delivery.updatedAt

/-- The item that the work puts into the event log. -/
def WebhookWork.item (work : WebhookWork) (ulid now : String) : EventItem :=
  eventItem work.userId work.internalEventType ulid now work.attributes.entries

/-- The append and the audit record at the end of `handle_webhook`. -/
def recordWork (work : WebhookWork) (delivery : Delivery) (stores : Stores) : Stores × Response :=
  let logged := append delivery.appendFault stores.eventLog work.userId work.internalEventType
    delivery.ulid delivery.createdAt work.attributes.entries
  let after := { stores with eventLog := logged.table }
  if logged.reply = .ok then
    (after, if delivery.audited then .ok [("status", "ok")] else .error .other)
  else (after, .error .clientError)

/-- `handle_webhook`, from the verified event on. -/
def handleWebhook (service : Service) (stores : Stores) (delivery : Delivery) :
    Stores × Response :=
  match readEvent service delivery.event with
  | .ignored body => (stores, .ok body)
  | .raises error => (stores, .error error)
  | .acts work =>
      match work.projection with
      | none => recordWork work delivery stores
      | some projection =>
          let applied := projection.upsert delivery stores.subscriptions
          let after := { stores with subscriptions := applied.table }
          match applied.reply with
          | .failed => (after, .error .clientError)
          | .conditionalCheckFailed =>
              (after, .ok [("status", "duplicate"), ("stripe_event_id", projection.stripeEventId)])
          | .ok => recordWork work delivery after

/-- A delivery as a step. The ULID it draws is one that no item carries. -/
def step (service : Service) (stores : Stores) (delivery : Delivery) : Option Stores :=
  if stores.eventLog.Unused delivery.ulid then some (handleWebhook service stores delivery).1
  else none

/-- Nothing goes wrong with the delivery. -/
def Delivery.Reliable (delivery : Delivery) : Prop :=
  delivery.upsertFault = .none ∧ delivery.appendFault = .none ∧ delivery.audited = true

instance (delivery : Delivery) : Decidable delivery.Reliable :=
  inferInstanceAs (Decidable (_ ∧ _ ∧ _))

/-- The row write of an event, if the handler gets to one. -/
def projectionOf (service : Service) (event : Event) : Option Projection :=
  match readEvent service event with
  | .acts work => work.projection
  | _ => none

/-! ## What a delivery does -/

variable {service : Service} {stores : Stores} {delivery : Delivery} {work : WebhookWork}
  {projection : Projection}

@[simp] theorem recordWork_subscriptions :
    (recordWork work delivery stores).1.subscriptions = stores.subscriptions := by
  simp only [recordWork]
  by_cases ok : (append delivery.appendFault stores.eventLog work.userId work.internalEventType
    delivery.ulid delivery.createdAt work.attributes.entries).reply = .ok
  · rw [if_pos ok]
  · rw [if_neg ok]

theorem recordWork_eventLog :
    (recordWork work delivery stores).1.eventLog =
      (append delivery.appendFault stores.eventLog work.userId work.internalEventType
        delivery.ulid delivery.createdAt work.attributes.entries).table := by
  simp only [recordWork]
  by_cases ok : (append delivery.appendFault stores.eventLog work.userId work.internalEventType
    delivery.ulid delivery.createdAt work.attributes.entries).reply = .ok
  · rw [if_pos ok]
  · rw [if_neg ok]

/-- The append puts the item of the work, if the request gets to the table. -/
theorem recordWork_eventLog_of_arrives (arrives : delivery.appendFault ≠ .lost) :
    (recordWork work delivery stores).1.eventLog =
      stores.eventLog.insert (eventKey work.userId delivery.ulid)
        (work.item delivery.ulid delivery.createdAt) := by
  rw [recordWork_eventLog]
  unfold append put
  cases fault : delivery.appendFault with
  | lost => exact absurd fault arrives
  | _ => rfl

theorem projectionOf_eq_some {event : Event} :
    projectionOf service event = some projection ↔
      ∃ work, readEvent service event = .acts work ∧ work.projection = some projection := by
  unfold projectionOf
  cases readEvent service event <;> simp

theorem handleWebhook_unprojected (read : readEvent service delivery.event = .acts work)
    (unwritten : work.projection = none) :
    handleWebhook service stores delivery = recordWork work delivery stores := by
  unfold handleWebhook
  simp only [read, unwritten]

theorem handleWebhook_projected (read : readEvent service delivery.event = .acts work)
    (writes : work.projection = some projection) :
    handleWebhook service stores delivery =
      match (projection.upsert delivery stores.subscriptions).reply with
      | .failed =>
          ({ stores with subscriptions := (projection.upsert delivery stores.subscriptions).table },
            .error .clientError)
      | .conditionalCheckFailed =>
          ({ stores with subscriptions := (projection.upsert delivery stores.subscriptions).table },
            .ok [("status", "duplicate"), ("stripe_event_id", projection.stripeEventId)])
      | .ok =>
          recordWork work delivery
            { stores with
              subscriptions := (projection.upsert delivery stores.subscriptions).table } := by
  unfold handleWebhook
  simp only [read, writes]

/-- The subscriptions table after a delivery is what the upsert leaves. -/
theorem handleWebhook_subscriptions (read : readEvent service delivery.event = .acts work)
    (writes : work.projection = some projection) :
    (handleWebhook service stores delivery).1.subscriptions =
      (projection.upsert delivery stores.subscriptions).table := by
  rw [handleWebhook_projected read writes]
  split
  · rfl
  · rfl
  · exact recordWork_subscriptions

/-- A delivery of an event that its row already carries changes nothing. -/
theorem handleWebhook_of_applied (read : readEvent service delivery.event = .acts work)
    (writes : work.projection = some projection)
    (applied : projection.Applied stores.subscriptions) :
    (handleWebhook service stores delivery).1 = stores := by
  have duplicate : (projection.upsert delivery stores.subscriptions).table = stores.subscriptions ∧
      (projection.upsert delivery stores.subscriptions).reply ≠ .ok := upsert_of_applied applied
  obtain ⟨unchanged, notOk⟩ := duplicate
  rw [handleWebhook_projected read writes]
  split
  · exact congrArg (Stores.mk · stores.eventLog) unchanged
  · exact congrArg (Stores.mk · stores.eventLog) unchanged
  · rename_i ok
    exact absurd ok notOk

/-- A new event replaces its row, if the upsert gets to the table. -/
theorem handleWebhook_subscriptions_of_new
    (projects : projectionOf service delivery.event = some projection)
    (new : ¬ projection.Applied stores.subscriptions) (arrives : delivery.upsertFault ≠ .lost) :
    (handleWebhook service stores delivery).1.subscriptions =
      stores.subscriptions.insert projection.key (projection.item delivery.updatedAt) := by
  obtain ⟨work, read, writes⟩ := projectionOf_eq_some.mp projects
  rw [handleWebhook_subscriptions read writes]
  exact upsert_of_not_applied new arrives

/-- A row changes only when an event is projected onto it, and then as a whole. -/
theorem handleWebhook_lookup_cases (service : Service) (stores : Stores) (delivery : Delivery)
    (key : SubscriptionKey) :
    (handleWebhook service stores delivery).1.subscriptions.lookup key =
        stores.subscriptions.lookup key ∨
      ∃ projection, projectionOf service delivery.event = some projection ∧
        projection.key = key ∧
        (handleWebhook service stores delivery).1.subscriptions.lookup key =
          some (projection.item delivery.updatedAt) := by
  cases read : readEvent service delivery.event with
  | ignored body =>
      simp only [handleWebhook, read, true_or]
  | raises error =>
      simp only [handleWebhook, read, true_or]
  | acts work =>
      cases projects : work.projection with
      | none =>
          rw [handleWebhook_unprojected read projects, recordWork_subscriptions]
          exact Or.inl rfl
      | some projection =>
          have upserted := upsert_cases delivery.upsertFault stores.subscriptions projection.key
            projection.stripeEventId projection.state delivery.updatedAt
          rw [handleWebhook_subscriptions read projects]
          unfold Projection.upsert
          rcases upserted with unchanged | replaced
          · rw [unchanged]
            exact Or.inl rfl
          · rw [replaced]
            by_cases same : projection.key = key
            · refine Or.inr ⟨projection, projectionOf_eq_some.mpr ⟨work, read, projects⟩, same, ?_⟩
              rw [← same, AList.lookup_insert]
              rfl
            · rw [AList.lookup_insert_ne (Ne.symm same)]
              exact Or.inl rfl

/-- An event can be delivered at any time, without anything going wrong. -/
theorem exists_reliable (service : Service) (stores : Stores) (event : Event) :
    ∃ delivery after, delivery.event = event ∧ delivery.Reliable ∧
      step service stores delivery = some after := by
  obtain ⟨ulid, unused⟩ := stores.eventLog.exists_unused
  exact ⟨⟨event, .none, "", .none, ulid, "", true⟩, _, rfl, ⟨rfl, rfl, rfl⟩, if_pos unused⟩

theorem step_eq_some {after : Stores} :
    step service stores delivery = some after ↔
      stores.eventLog.Unused delivery.ulid ∧ (handleWebhook service stores delivery).1 = after := by
  unfold step
  split <;> simp_all

/-! ## Sample events -/

/-- The prices of the sample events. -/
def sampleService : Service where
  settings := ⟨"price_pro", "price_team"⟩
  str _ := ""

/-- No subscription and no event yet. -/
def Stores.empty : Stores := ⟨∅, ∅⟩

/-- An event about the subscription `sub_1` of `user_1`. -/
def subscriptionEvent (eventId eventType status : String) : Event :=
  [("id", .str eventId), ("type", .str eventType),
    ("data", .dict [("object", .dict
      [("id", .str "sub_1"), ("status", .str status),
        ("metadata", .dict [("user_id", .str "user_1")]),
        ("items", .dict [("data", .list [.dict
          [("price", .dict [("id", .str "price_pro")])]])])])])]

/-- The subscription is active, at the pro price. -/
def updateEvent : Event :=
  subscriptionEvent "evt_update" "customer.subscription.updated" "active"

/-- The subscription is gone. -/
def deletionEvent : Event :=
  subscriptionEvent "evt_delete" "customer.subscription.deleted" "canceled"

/-- The checkout that the subscription came from. -/
def checkoutEvent : Event :=
  [("id", .str "evt_checkout"), ("type", .str "checkout.session.completed"),
    ("data", .dict [("object", .dict
      [("id", .str "cs_1"), ("client_reference_id", .str "user_1"),
        ("subscription", .str "sub_1"), ("status", .str "complete")])])]

/-- The delivery of an event to a service whose calls all end well. -/
def reliableDelivery (event : Event) (ulid : String) : Delivery :=
  ⟨event, .none, "t", .none, ulid, "t", true⟩

end Panakoes.Billing
