import Mathlib.Data.Int.Notation
import Panakoes.Foundation.PyJson

/-! # What a Stripe event says

The webhook handler works on the event as the Stripe SDK decodes it. From the
event's object it takes the user, the attributes for the event log, and the
state of the subscription for the subscriptions table.
-/

namespace Panakoes.Billing

open PyJson (get)

/-- A verified event, as `verify_webhook_signature` returns it. -/
abbrev Event := List (String × PyJson)

/-- The object that an event is about, `event["data"]["object"]`. -/
abbrev EventObject := List (String × PyJson)

/-- `Plan`. -/
inductive Plan where
  | free
  | pro
  | team
  deriving DecidableEq, Repr

/-- The paid tiers. -/
inductive Tier where
  | pro
  | team
  deriving DecidableEq, Repr

/-- The settings the webhook reads. -/
structure Settings where
  stripePricePro : String
  stripePriceTeam : String

/-- The service: its settings, and `str` on values that are not strings. -/
structure Service where
  settings : Settings
  str : PyJson → String

/-- `_WEBHOOK_EVENT_TYPE_MAP`. -/
def webhookEventTypeMap : List (String × String) :=
  [("checkout.session.completed", "checkout_completed"),
    ("customer.subscription.created", "subscription_created"),
    ("customer.subscription.updated", "subscription_updated"),
    ("customer.subscription.deleted", "subscription_deleted"),
    ("invoice.paid", "invoice_paid"),
    ("invoice.payment_failed", "invoice_payment_failed")]

/-- `_SUBSCRIPTION_STATE_EVENTS`. -/
def subscriptionStateEvents : List String :=
  ["checkout.session.completed", "customer.subscription.created",
    "customer.subscription.updated", "customer.subscription.deleted"]

/-! ## Times -/

/-- An aware `datetime` in UTC with whole seconds, by its POSIX timestamp. The
years go from 1 to 9999. -/
structure Datetime where
  timestamp : ℤ
  inRange : -62135596800 ≤ timestamp ∧ timestamp ≤ 253402300799
  deriving DecidableEq

/-- `datetime.fromtimestamp(timestamp, UTC)`. -/
def Datetime.fromTimestamp (timestamp : ℤ) : Except PyError Datetime :=
  if inRange : -62135596800 ≤ timestamp ∧ timestamp ≤ 253402300799 then .ok ⟨timestamp, inRange⟩
  else .error .valueError

/-- The proleptic Gregorian date, as year, month and day, of a day counted from
1970-01-01. -/
def civilFromDays (days : ℤ) : ℤ × ℤ × ℤ :=
  -- Years start in March here, so that the leap day is the last day of a year.
  let shifted := days + 719468
  let era := shifted / 146097
  let dayOfEra := shifted % 146097
  let yearOfEra := (dayOfEra - dayOfEra / 1460 + dayOfEra / 36524 - dayOfEra / 146096) / 365
  let dayOfYear := dayOfEra - (365 * yearOfEra + yearOfEra / 4 - yearOfEra / 100)
  let monthFromMarch := (5 * dayOfYear + 2) / 153
  let day := dayOfYear - (153 * monthFromMarch + 2) / 5 + 1
  let month := if monthFromMarch < 10 then monthFromMarch + 3 else monthFromMarch - 9
  (yearOfEra + era * 400 + (if month ≤ 2 then 1 else 0), month, day)

/-- The digits of a number, padded with zeros to a width. -/
def zeroPadded (width : ℕ) (number : ℤ) : String :=
  String.ofList ((toString number).toList.leftpad width '0')

/-- `datetime.isoformat()`. -/
def Datetime.isoformat (moment : Datetime) : String :=
  let (year, month, day) := civilFromDays (moment.timestamp / 86400)
  let second := moment.timestamp % 86400
  zeroPadded 4 year ++ "-" ++ zeroPadded 2 month ++ "-" ++ zeroPadded 2 day ++ "T" ++
    zeroPadded 2 (second / 3600) ++ ":" ++ zeroPadded 2 (second % 3600 / 60) ++ ":" ++
    zeroPadded 2 (second % 60) ++ "+00:00"

example : (Datetime.mk 1800000000 (by decide)).isoformat = "2027-01-15T08:00:00+00:00" := by
  decide +kernel

/-- `datetime.fromtimestamp(entries[key], UTC)` if there is an integer under the key. -/
def timestampField (entries : EventObject) (key : String) : Except PyError (Option Datetime) :=
  match (get entries key).int? with
  | none => .ok none
  | some timestamp => (Datetime.fromTimestamp timestamp).map some

/-! ## Attributes -/

/-- `event["data"]["object"]`, empty when there is none. -/
def eventObjectOf (event : Event) : EventObject :=
  (((get event "data").dict?.bind fun data => (get data "object").dict?)).getD []

/-- `_user_id_from_event`. -/
def userIdFromEvent (eventObject : EventObject) : Option String :=
  (get eventObject "client_reference_id").nonemptyStr?.orElse fun _ =>
    (get eventObject "metadata").dict?.bind fun metadata => (get metadata "user_id").nonemptyStr?

/-- `items["data"][0]` of the object, if it is a dictionary. -/
def firstItem (eventObject : EventObject) : Option (List (String × PyJson)) :=
  (get eventObject "items").dict?.bind fun items =>
    (get items "data").head?.bind PyJson.dict?

/-- The attributes the handler takes from an event's object. A missing key is
`none`. -/
structure EventAttributes where
  stripeEventType : String
  stripeCustomerId : Option String
  stripeSubscriptionId : Option String
  status : Option String
  currentPeriodEnd : Option Datetime
  stripePriceId : Option String
  tier : Option Tier

/-- `_extract_subscription_attributes`. -/
def extractSubscriptionAttributes (stripeEventType : String) (eventObject : EventObject) :
    Except PyError EventAttributes := do
  let currentPeriodEnd ← timestampField eventObject "current_period_end"
  return {
    stripeEventType
    stripeCustomerId := (get eventObject "customer").nonemptyStr?
    stripeSubscriptionId :=
      ((get eventObject "subscription").orElse (get eventObject "id")).nonemptyStr?
    status := (get eventObject "status").nonemptyStr?
    currentPeriodEnd
    stripePriceId :=
      (firstItem eventObject).bind fun first =>
        (get first "price").dict?.bind fun price => (get price "id").nonemptyStr?
    tier := none }

/-- The tier of a price, if it is one of the two that are sold. -/
def tierOfPrice (settings : Settings) (priceId : Option String) : Option Tier :=
  if priceId = some settings.stripePricePro then some .pro
  else if priceId = some settings.stripePriceTeam then some .team
  else none

/-- The dictionary of the attributes, as it goes into the event log. -/
def EventAttributes.entries (attributes : EventAttributes) : List (String × PyJson) :=
  [("stripe_event_type", some attributes.stripeEventType),
    ("stripe_customer_id", attributes.stripeCustomerId),
    ("stripe_subscription_id", attributes.stripeSubscriptionId),
    ("status", attributes.status),
    ("current_period_end", attributes.currentPeriodEnd.map Datetime.isoformat),
    ("stripe_price_id", attributes.stripePriceId),
    ("tier", attributes.tier.map fun
      | .pro => "pro"
      | .team => "team")].filterMap fun (key, value) => value.map fun text => (key, .str text)

/-- `_plan_from_attributes`. -/
def planFromAttributes (attributes : EventAttributes) : Plan :=
  match attributes.tier with
  | some .team => .team
  | some .pro => .pro
  | none => .free

/-! ## Subscription state -/

/-- What an event says about its subscription, as `upsert` is given it. -/
structure SubscriptionState where
  plan : Plan
  status : String
  currentPeriodEnd : Option Datetime
  cancelAt : Option Datetime
  quantity : ℤ
  stripeCustomerId : Option String
  deriving DecidableEq

/-- The first of an item's `quantity` fields that is a positive integer, or 1. -/
def quantityOf (eventObject : EventObject) : ℤ :=
  let positive := fun entries => (get entries "quantity").int?.filter (0 < ·)
  (positive eventObject).getD (((firstItem eventObject).bind positive).getD 1)

/-- `str(attributes.get("status") or event_object.get("status") or "active")`. -/
def statusOf (service : Service) (eventObject : EventObject) (attributes : EventAttributes) :
    String :=
  match attributes.status with
  | some status => status
  | none =>
      match (get eventObject "status").orElse (.str "active") with
      | .str status => status
      | value => service.str value

/-- The values `_apply_subscription_state` passes to `upsert`. The ISO text of
`current_period_end` is read back as the time it was written from. -/
def subscriptionState (service : Service) (eventType : String) (eventObject : EventObject)
    (attributes : EventAttributes) : Except PyError SubscriptionState := do
  let cancelAt ← timestampField eventObject "cancel_at"
  let deleted := eventType = "customer.subscription.deleted"
  return {
    plan := if deleted then .free else planFromAttributes attributes
    status := if deleted then "canceled" else statusOf service eventObject attributes
    currentPeriodEnd := attributes.currentPeriodEnd
    cancelAt
    quantity := quantityOf eventObject
    stripeCustomerId := attributes.stripeCustomerId }

/-- `subscription.deleted` drops the plan and cancels, whatever the object says. -/
theorem subscriptionState_deleted {service : Service} {eventObject : EventObject}
    {attributes : EventAttributes} {state : SubscriptionState}
    (read : subscriptionState service "customer.subscription.deleted" eventObject attributes =
      .ok state) : state.plan = .free ∧ state.status = "canceled" := by
  unfold subscriptionState at read
  cases cancel : timestampField eventObject "cancel_at" with
  | error error =>
      rw [cancel] at read
      cases read
  | ok cancelAt =>
      rw [cancel] at read
      cases read
      exact ⟨rfl, rfl⟩

end Panakoes.Billing
