import Panakoes.Billing.Webhook
import Panakoes.Foundation.Run

/-! # The keys of the subscriptions table

The handler takes the id of the subscription from the object of an event: from its `subscription`,
or else from its `id`. The object of a subscription event is the subscription; that of a checkout
is not, and without a `subscription` its own id becomes the key of a row.
-/

namespace Panakoes.Billing

open Transition ConditionalWrite
open PyJson (get)

/-- The events whose object is a subscription. -/
def subscriptionEvents : List String :=
  ["customer.subscription.created", "customer.subscription.updated",
    "customer.subscription.deleted"]

/-- The object of the event is the subscription, or has it under `subscription`. -/
def Names (event : Event) (subscriptionId : String) : Prop :=
  (get (eventObjectOf event) "subscription").nonemptyStr? = some subscriptionId ∨
    (∃ eventType ∈ subscriptionEvents, get event "type" = .str eventType) ∧
      (get (eventObjectOf event) "id").nonemptyStr? = some subscriptionId

/-- The event is no checkout without a subscription, or its object has no id. -/
def Attached (event : Event) : Prop :=
  get event "type" = .str "checkout.session.completed" →
    (get (eventObjectOf event) "subscription").truthy = true ∨
      (get (eventObjectOf event) "id").nonemptyStr? = none

/-- Every row is keyed by a subscription that a delivered event names. -/
def KeysNamed (deliveries : List Delivery) (stores : Stores) : Prop :=
  ∀ key ∈ stores.subscriptions.keys, ∃ delivery ∈ deliveries, Names delivery.event key.2

/-- An event that names no subscription writes no row. -/
def WritesNamed (service : Service) (stores : Stores) (delivery : Delivery) : Prop :=
  (∀ subscriptionId, ¬ Names delivery.event subscriptionId) →
    (handleWebhook service stores delivery).1.subscriptions = stores.subscriptions

variable {service : Service} {event : Event} {projection : Projection}

/-- The row of an event is keyed by the `subscription` of its object, or else by its id. -/
theorem subscriptionId_of_projectionOf (projects : projectionOf service event = some projection) :
    (∃ eventType ∈ subscriptionStateEvents, get event "type" = .str eventType) ∧
      ((get (eventObjectOf event) "subscription").orElse
        (get (eventObjectOf event) "id")).nonemptyStr? = some projection.subscriptionId := by
  obtain ⟨work, read, writes⟩ := projectionOf_eq_some.mp projects
  unfold readEvent at read
  split at read
  · rename_i eventType typed
    split at read
    · cases read
    · dsimp only at read
      split at read
      · cases read
      · split at read
        · cases read
        · rename_i made computed
          cases read
          obtain ⟨extracted, extracts, computed⟩ := Except.bind_eq_ok.mp computed
          obtain ⟨projected, projects, made⟩ := Except.bind_eq_ok.mp computed
          cases made
          dsimp only at writes
          subst writes
          obtain ⟨periodEnd, -, made⟩ := Except.bind_eq_ok.mp extracts
          cases made
          unfold readProjection at projects
          split at projects
          · rename_i subscriptionId _ identified
            split at projects
            · rename_i bears
              obtain ⟨state, -, made⟩ := Except.map_eq_ok.mp projects
              cases made
              exact ⟨⟨eventType, bears, typed⟩, identified⟩
            · cases projects
          · cases projects
  · cases read

theorem truthy_of_nonemptyStr? {value : PyJson} {text : String}
    (carried : value.nonemptyStr? = some text) : value.truthy = true := by
  unfold PyJson.nonemptyStr? at carried
  split at carried
  · split at carried
    · cases carried
    · rename_i present
      simpa [PyJson.truthy] using present
  · cases carried

/-- The id of a projected event is one that the event names, unless it is a checkout's own. -/
theorem names_of_projectionOf (projects : projectionOf service event = some projection)
    (attached : Attached event) : Names event projection.subscriptionId := by
  obtain ⟨⟨eventType, bears, typed⟩, identified⟩ := subscriptionId_of_projectionOf projects
  unfold PyJson.orElse at identified
  split at identified
  · exact Or.inl identified
  · rename_i absent
    have about : eventType ∈ subscriptionEvents := by
      rcases List.mem_cons.mp bears with rfl | about
      · rcases attached typed with present | anonymous
        · exact absurd present absent
        · rw [anonymous] at identified
          cases identified
      · exact about
    exact Or.inr ⟨⟨eventType, about, typed⟩, identified⟩

/-- The exception is no smaller than stated: the event names no other id. -/
theorem names_iff_attached (projects : projectionOf service event = some projection) :
    Names event projection.subscriptionId ↔ Attached event := by
  refine ⟨fun names checkout => ?_, names_of_projectionOf projects⟩
  rcases names with carried | ⟨⟨eventType, about, typed⟩, -⟩
  · exact Or.inl (truthy_of_nonemptyStr? carried)
  · rw [checkout] at typed
    cases typed
    simp [subscriptionEvents] at about

/-- A delivery writes at most the row that its event is projected onto. -/
theorem keys_handleWebhook {stores : Stores} {delivery : Delivery} {key : SubscriptionKey}
    (member : key ∈ (handleWebhook service stores delivery).1.subscriptions.keys) :
    key ∈ stores.subscriptions.keys ∨
      ∃ projection, projectionOf service delivery.event = some projection ∧
        projection.key = key := by
  rcases handleWebhook_lookup_cases service stores delivery key with same | written
  · have held := AList.lookup_isSome.mpr member
    rw [same] at held
    exact Or.inl (AList.lookup_isSome.mp held)
  · obtain ⟨projection, projects, same, -⟩ := written
    exact Or.inr ⟨projection, projects, same⟩

theorem writesNamed_of_attached {stores : Stores} {delivery : Delivery}
    (attached : Attached delivery.event) : WritesNamed service stores delivery := by
  intro nameless
  cases projects : projectionOf service delivery.event with
  | some projection =>
      exact absurd (names_of_projectionOf projects attached) (nameless _)
  | none =>
      unfold handleWebhook
      unfold projectionOf at projects
      split
      · rfl
      · rfl
      · rename_i work read
        rw [read] at projects
        dsimp only at projects
        rw [projects]
        exact recordWork_subscriptions

/-- **Unless a checkout without a subscription is delivered, every row is keyed by a subscription
that an event names, and an event that names none writes no row.** -/
theorem keysNamed_of_attached (service : Service) (eventLog : EventLog)
    (deliveries : List Delivery) {final : Stores}
    (run : execute (step service) ⟨∅, eventLog⟩ deliveries = some final)
    (attached : ∀ delivery ∈ deliveries, Attached delivery.event) :
    KeysNamed deliveries final ∧
      Meets (step service) (fun _ stores delivery => WritesNamed service stores delivery) []
        ⟨∅, eventLog⟩ deliveries := by
  induction deliveries using List.reverseRecOn generalizing final with
  | nil =>
      cases run
      exact ⟨fun key member => absurd member List.not_mem_nil, trivial⟩
  | append_singleton past delivery ih =>
      obtain ⟨before, reached, taken⟩ := (execute_concat_eq_some _).mp run
      obtain ⟨-, rfl⟩ := step_eq_some.mp taken
      obtain ⟨named, silent⟩ :=
        ih reached fun earlier member => attached earlier (List.mem_append_left _ member)
      have last := attached delivery (by simp)
      constructor
      · intro key member
        rcases keys_handleWebhook member with held | ⟨projection, projects, rfl⟩
        · obtain ⟨earlier, place, names⟩ := named key held
          exact ⟨earlier, List.mem_append_left _ place, names⟩
        · exact ⟨delivery, by simp, names_of_projectionOf projects last⟩
      · refine Meets.append.mpr ⟨silent, fun middle same => ?_⟩
        exact ⟨writesNamed_of_attached last, fun _ _ => trivial⟩

/-- The theorem on a checkout that has its subscription, and the update that follows it. -/
theorem keysNamed_of_checkout :
    ∃ final, execute (step sampleService) Stores.empty
        [reliableDelivery checkoutEvent "1", reliableDelivery updateEvent "2"] = some final ∧
      ("user_1", "sub_1") ∈ final.subscriptions.keys ∧
      KeysNamed [reliableDelivery checkoutEvent "1", reliableDelivery updateEvent "2"] final := by
  have written : (execute (step sampleService) Stores.empty
      [reliableDelivery checkoutEvent "1", reliableDelivery updateEvent "2"]).map
        (fun stores => decide (("user_1", "sub_1") ∈ stores.subscriptions.keys)) = some true := by
    decide +kernel
  obtain ⟨final, run, held⟩ := Option.map_eq_some_iff.mp written
  rw [decide_eq_true_eq] at held
  have attached : ∀ delivery ∈
      [reliableDelivery checkoutEvent "1", reliableDelivery updateEvent "2"],
      Attached delivery.event := by
    intro delivery member
    rcases List.mem_pair.mp member with rfl | rfl
    · exact fun _ => Or.inl (by decide)
    · intro checkout
      exact absurd (PyJson.str.inj checkout) (by decide)
  exact ⟨final, run, held, (keysNamed_of_attached sampleService ∅ _ run attached).1⟩

/-- A checkout is completed before Stripe attaches the subscription. -/
def earlyCheckout : Event :=
  [("id", .str "evt_checkout"), ("type", .str "checkout.session.completed"),
    ("data", .dict [("object", .dict
      [("id", .str "cs_1"), ("client_reference_id", .str "user_1"), ("subscription", .none),
        ("status", .str "complete")])])]

/-- Its own id becomes the key of a row. -/
theorem checkout_keys_row :
    ¬ ∀ (service : Service) (eventLog : EventLog) (deliveries : List Delivery) (final : Stores),
      execute (step service) ⟨∅, eventLog⟩ deliveries = some final →
      KeysNamed deliveries final ∧
        Meets (step service) (fun _ stores delivery => WritesNamed service stores delivery) []
          ⟨∅, eventLog⟩ deliveries := by
  intro always
  have written : (execute (step sampleService) Stores.empty
      [reliableDelivery earlyCheckout "1"]).map
        (fun stores => decide (("user_1", "cs_1") ∈ stores.subscriptions.keys)) = some true := by
    decide +kernel
  obtain ⟨final, run, held⟩ := Option.map_eq_some_iff.mp written
  rw [decide_eq_true_eq] at held
  obtain ⟨delivery, member, names⟩ := (always _ _ _ _ run).1 _ held
  obtain rfl := List.mem_singleton.mp member
  rcases names with carried | ⟨⟨eventType, about, typed⟩, -⟩
  · exact absurd carried (by decide)
  · cases typed
    simp [subscriptionEvents] at about

end Panakoes.Billing
