import Panakoes.Billing.Webhook
import Panakoes.Foundation.Run

/-! # The order of deliveries

Every new event that is projected onto a row replaces the row as a whole, and
nothing compares the times of two events. What a row entitles to is therefore
what the event projected onto it last says, and the plan of a tenant depends on
the order of deliveries only through these last events.
-/

namespace Panakoes.Billing

open Transition ConditionalWrite

variable {service : Service} {start final : Stores} {deliveries : List Delivery}
  {key : SubscriptionKey}

/-- The row writes of a list of deliveries. -/
def projections (service : Service) (deliveries : List Delivery) : List Projection :=
  deliveries.filterMap fun delivery => projectionOf service delivery.event

/-- The event that is the last to be projected onto a row. -/
def lastOnto (service : Service) (key : SubscriptionKey) (deliveries : List Delivery) :
    Option Projection :=
  ((projections service deliveries).filter (·.key = key)).getLast?

/-- The plan an event entitles to. -/
def Projection.entitlement (projection : Projection) : Plan :=
  entitled projection.state.status projection.state.plan

/-- The deliveries all end well, and their events are new to the table and have
different ids. -/
structure FreshEvents (service : Service) (start : Stores) (deliveries : List Delivery) :
    Prop where
  reliable : ∀ delivery ∈ deliveries, delivery.Reliable
  distinct : ((projections service deliveries).map Projection.stripeEventId).Nodup
  unseen : ∀ projection ∈ projections service deliveries,
    ¬ projection.Applied start.subscriptions

instance (service : Service) (start : Stores) (deliveries : List Delivery) :
    Decidable (FreshEvents service start deliveries) :=
  decidable_of_iff (_ ∧ _ ∧ _)
    ⟨fun all => ⟨all.1, all.2.1, all.2.2⟩, fun all => ⟨all.reliable, all.distinct, all.unseen⟩⟩

/-! ## One delivery -/

@[simp] theorem projections_concat (past : List Delivery) (delivery : Delivery) :
    projections service (past ++ [delivery]) =
      projections service past ++ (projectionOf service delivery.event).toList := by
  unfold projections
  rw [List.filterMap_append]
  cases found : projectionOf service delivery.event <;> simp [found]

theorem FreshEvents.past {past : List Delivery} {delivery : Delivery}
    (fresh : FreshEvents service start (past ++ [delivery])) : FreshEvents service start past := by
  obtain ⟨reliable, distinct, unseen⟩ := fresh
  rw [projections_concat] at distinct unseen
  rw [List.map_append] at distinct
  refine ⟨fun one member => reliable one (List.mem_append_left _ member),
    (List.nodup_append.mp distinct).1, fun one member => unseen one (List.mem_append_left _ member)⟩

theorem lastOnto_concat_of_projects {past : List Delivery} {delivery : Delivery}
    {projection : Projection} (projects : projectionOf service delivery.event = some projection)
    (onto : projection.key = key) :
    lastOnto service key (past ++ [delivery]) = some projection := by
  unfold lastOnto
  rw [projections_concat, projects, List.filter_append]
  simp [onto]

theorem lastOnto_concat_of_not {past : List Delivery} {delivery : Delivery}
    (elsewhere : ∀ projection ∈ projectionOf service delivery.event, projection.key ≠ key) :
    lastOnto service key (past ++ [delivery]) = lastOnto service key past := by
  unfold lastOnto
  rw [projections_concat, List.filter_append]
  have none : (projectionOf service delivery.event).toList.filter (·.key = key) = [] := by
    apply List.filter_eq_nil_iff.mpr
    intro projection member
    simpa using elsewhere projection (Option.mem_toList.mp member)
  rw [none, List.append_nil]

theorem mem_projections_of_lastOnto {projection : Projection}
    (last : lastOnto service key deliveries = some projection) :
    projection ∈ projections service deliveries ∧ projection.key = key := by
  have member := List.mem_filter.mp (List.mem_of_getLast? last)
  exact ⟨member.1, by simpa using member.2⟩

/-- When all events are projected onto one row, none is the last onto another. -/
theorem lastOnto_of_ne {row : SubscriptionKey}
    (one : ∀ projection ∈ projections service deliveries, projection.key = row)
    (other : key ≠ row) : lastOnto service key deliveries = none := by
  unfold lastOnto
  rw [List.getLast?_eq_none_iff, List.filter_eq_nil_iff]
  intro projection member
  simpa only [one projection member, decide_eq_true_eq] using Ne.symm other

/-! ## A run -/

/-- A row holds what the last event projected onto it says, or is as it was. -/
def Reflects (start stores : Stores) (key : SubscriptionKey) : Option Projection → Prop
  | none => stores.subscriptions.lookup key = start.subscriptions.lookup key
  | some last => ∃ now, stores.subscriptions.lookup key = some (last.item now)

theorem Reflects.of_lookup {before after : Stores} {last : Option Projection}
    (reflects : Reflects start before key last)
    (same : after.subscriptions.lookup key = before.subscriptions.lookup key) :
    Reflects start after key last := by
  cases last with
  | none => exact same.trans reflects
  | some last =>
      obtain ⟨now, held⟩ := reflects
      exact ⟨now, same.trans held⟩

/-- The event of the next delivery is not the one its row carries. -/
theorem FreshEvents.not_applied {past : List Delivery} {delivery : Delivery} {before : Stores}
    {projection : Projection} (fresh : FreshEvents service start (past ++ [delivery]))
    (projects : projectionOf service delivery.event = some projection)
    (reflects : Reflects start before projection.key (lastOnto service projection.key past)) :
    ¬ projection.Applied before.subscriptions := by
  intro applied
  obtain ⟨_, distinct, unseen⟩ := fresh
  rw [projections_concat, projects] at distinct unseen
  unfold Projection.Applied SubscriptionTable.Applied at applied
  cases last : lastOnto service projection.key past with
  | none =>
      rw [last] at reflects
      rw [show before.subscriptions.lookup _ = _ from reflects] at applied
      exact unseen projection (List.mem_append_right _ (by simp)) applied
  | some earlier =>
      rw [last] at reflects
      obtain ⟨now, held⟩ := reflects
      rw [held] at applied
      have sameId : earlier.stripeEventId = projection.stripeEventId := Option.some.inj applied
      rw [List.map_append] at distinct
      have member := List.mem_map_of_mem (f := Projection.stripeEventId)
        (mem_projections_of_lastOnto last).1
      exact (List.nodup_append.mp distinct).2.2 _ member projection.stripeEventId (by simp) sameId

/-- Every run of fresh events leaves every row with its last event. -/
theorem reflects_of_run (fresh : FreshEvents service start deliveries)
    (run : execute (step service) start deliveries = some final) :
    Reflects start final key (lastOnto service key deliveries) := by
  induction deliveries using List.reverseRecOn generalizing final with
  | nil =>
      cases run
      exact rfl
  | append_singleton past delivery ih =>
      obtain ⟨before, reached, taken⟩ := (execute_concat_eq_some _).mp run
      obtain ⟨_, rfl⟩ := step_eq_some.mp taken
      have reflects := ih fresh.past reached
      by_cases onto : ∃ projection, projectionOf service delivery.event = some projection ∧
          projection.key = key
      · obtain ⟨projection, projects, rfl⟩ := onto
        rw [lastOnto_concat_of_projects projects rfl]
        have new := fresh.not_applied projects reflects
        have arrives : delivery.upsertFault ≠ .lost := by
          rw [(fresh.reliable delivery (by simp)).1]
          exact Fault.noConfusion
        refine ⟨delivery.updatedAt, ?_⟩
        rw [handleWebhook_subscriptions_of_new projects new arrives, AList.lookup_insert]
      · have elsewhere : ∀ projection ∈ projectionOf service delivery.event,
            projection.key ≠ key :=
          fun projection projects same => onto ⟨projection, projects, same⟩
        rw [lastOnto_concat_of_not elsewhere]
        rcases handleWebhook_lookup_cases service before delivery key with
          unchanged | ⟨projection, projects, same, _⟩
        · exact reflects.of_lookup unchanged
        · exact absurd same (elsewhere projection projects)

/-- What a row entitles to after the deliveries: what the last event projected
onto it says, or what it said before. -/
def lastEntitlement (service : Service) (start : Stores) (deliveries : List Delivery)
    (key : SubscriptionKey) : Plan :=
  ((lastOnto service key deliveries).map Projection.entitlement).getD
    (start.subscriptions.entitlement key)

theorem entitlement_of_run (fresh : FreshEvents service start deliveries)
    (run : execute (step service) start deliveries = some final) :
    final.subscriptions.entitlement key = lastEntitlement service start deliveries key := by
  have reflects : Reflects start final key (lastOnto service key deliveries) :=
    reflects_of_run fresh run
  unfold SubscriptionTable.entitlement lastEntitlement
  cases last : lastOnto service key deliveries with
  | none =>
      rw [last] at reflects
      rw [show final.subscriptions.lookup key = _ from reflects]
      rfl
  | some projection =>
      rw [last] at reflects
      obtain ⟨now, held⟩ := reflects
      rw [held]
      rfl

/-- Every run of fresh events leads to the highest plan that the rows of the
tenant entitle to by their last events. -/
theorem isLUB_plan_of_run (fresh : FreshEvents service start deliveries)
    (run : execute (step service) start deliveries = some final) (tenantId : String) :
    IsLUB (Set.range fun subscriptionId =>
        lastEntitlement service start deliveries (tenantId, subscriptionId))
      (getPlan final.subscriptions tenantId) := by
  simp only [← entitlement_of_run fresh run]
  exact isLUB_getPlan final.subscriptions tenantId

/-- The subscription is created, at the pro price. -/
def creationEvent : Event := subscriptionEvent "evt_create" "customer.subscription.created" "active"

/-- Checkout, creation and update, in this order. -/
def checkoutFirst : List Delivery :=
  [reliableDelivery checkoutEvent "1", reliableDelivery creationEvent "2",
    reliableDelivery updateEvent "3"]

/-- Creation, checkout and update, in this order. -/
def creationFirst : List Delivery :=
  [reliableDelivery creationEvent "1", reliableDelivery checkoutEvent "2",
    reliableDelivery updateEvent "3"]

/-- Checkout and update, in this order. -/
def checkoutThenUpdate : List Delivery :=
  [reliableDelivery checkoutEvent "1", reliableDelivery updateEvent "2"]

/-- Update and checkout, in this order. -/
def updateThenCheckout : List Delivery :=
  [reliableDelivery updateEvent "1", reliableDelivery checkoutEvent "2"]

end Panakoes.Billing
