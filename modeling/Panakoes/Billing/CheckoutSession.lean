import Panakoes.Billing.Webhook
import Panakoes.Foundation.Run

/-! # Checkout sessions and whose their events are

A user pays through a Checkout Session that the service asks Stripe to open. The
session carries the user's id as `client_reference_id`, which Stripe echoes on
the session's own events only; on the events of the subscription that comes out
of it there is the metadata that was asked for on opening. None is asked for, so
no later event of the subscription names a user.
-/

namespace Panakoes.Billing

open Transition ConditionalWrite
open PyJson (get)

/-! ## Opening a session -/

/-- The subject of a verified access token. -/
structure AuthenticatedUser where
  userId : String
  email : String

/-- The body of `POST /checkout-session`. -/
structure CheckoutSessionRequest where
  tier : Tier
  seats : Option ℤ

/-- The settings the route reads. -/
structure CheckoutSettings extends Settings where
  stripeSuccessUrl : String
  stripeCancelUrl : String

/-- `HTTPException`. -/
structure HttpException where
  statusCode : ℕ
  detail : String
  deriving DecidableEq, Repr

/-- `TEAM_MIN_SEATS`. -/
def teamMinSeats : ℤ := 3

/-- `_resolve_price_for_tier`. -/
def resolvePriceForTier (settings : Settings) : Tier → String
  | .pro => settings.stripePricePro
  | .team => settings.stripePriceTeam

/-- `_resolve_quantity`. -/
def resolveQuantity (tier : Tier) (seats : Option ℤ) : Except HttpException ℤ :=
  let tooFew := .error ⟨422, s!"team tier requires seats >= {teamMinSeats}"⟩
  match tier, seats with
  | .pro, _ => .ok 1
  | .team, none => tooFew
  | .team, some seats => if seats < teamMinSeats then tooFew else .ok seats

/-- The arguments of `stripe.checkout.Session.create`. -/
def sessionArguments (customerEmail clientReferenceId priceId : String) (quantity : ℤ)
    (successUrl cancelUrl : String) : List (String × PyJson) :=
  [("mode", .str "subscription"), ("customer_email", .str customerEmail),
    ("client_reference_id", .str clientReferenceId),
    ("line_items", .list [.dict [("price", .str priceId), ("quantity", .int quantity)]]),
    ("success_url", .str successUrl), ("cancel_url", .str cancelUrl)]

/-- What the route `create_checkout_session` asks Stripe for. -/
def createCheckoutSession (settings : CheckoutSettings) (user : AuthenticatedUser)
    (request : CheckoutSessionRequest) : Except HttpException (List (String × PyJson)) :=
  (resolveQuantity request.tier request.seats).map fun quantity =>
    sessionArguments user.email user.userId (resolvePriceForTier settings.toSettings request.tier)
      quantity settings.stripeSuccessUrl settings.stripeCancelUrl

/-- What Stripe answers, and how the calls after it end. -/
structure CheckoutAnswer where
  session : List (String × PyJson)
  appendFault : Fault
  ulid : String
  createdAt : String
  audited : Bool

/-- The rest of the route: the event log and the checkout URL of the response. -/
def recordCheckoutSession (log : EventLog) (user : AuthenticatedUser)
    (request : CheckoutSessionRequest) (quantity : ℤ) (answer : CheckoutAnswer) :
    EventLog × Except HttpException String :=
  match (get answer.session "url").nonemptyStr? with
  | none => (log, .error ⟨502, "Stripe response missing checkout url"⟩)
  | some checkoutUrl =>
      let logged := append answer.appendFault log user.userId "checkout_started" answer.ulid
        answer.createdAt [("tier", .str (match request.tier with | .pro => "pro" | .team => "team")),
          ("seats", .int quantity), ("stripe_session_id", get answer.session "id")]
      (logged.table, if logged.reply = .ok ∧ answer.audited then .ok checkoutUrl
        else .error ⟨500, "Internal Server Error"⟩)

/-! ## What Stripe puts on later events -/

/-- The metadata that is asked for on the subscription of a session. -/
def subscriptionMetadata (arguments : List (String × PyJson)) : List (String × PyJson) :=
  ((get arguments "subscription_data").dict?.bind fun data => (get data "metadata").dict?).getD []

/-- The object of an event about the subscription of a session: no reference to
the client, and only metadata that was asked for. -/
structure SubscriptionEcho (arguments : List (String × PyJson)) (eventObject : EventObject) :
    Prop where
  reference : get eventObject "client_reference_id" = .none
  metadata : ∀ entries, (get eventObject "metadata").dict? = some entries →
    entries ⊆ subscriptionMetadata arguments

/-- The event is projected onto a row of the user. -/
def ProjectedOnto (service : Service) (event : Event) (key : SubscriptionKey) : Prop :=
  ∃ projection ∈ projectionOf service event, projection.key = key

instance (service : Service) (event : Event) (key : SubscriptionKey) :
    Decidable (ProjectedOnto service event key) :=
  inferInstanceAs (Decidable (∃ projection ∈ projectionOf service event, _))

variable {service : Service} {settings : CheckoutSettings} {user : AuthenticatedUser}
  {request : CheckoutSessionRequest} {arguments : List (String × PyJson)}
  {event : Event} {stores start final : Stores} {delivery : Delivery}
  {deliveries : List Delivery}

/-- No metadata is asked for. -/
theorem subscriptionMetadata_of_created
    (created : createCheckoutSession settings user request = .ok arguments) :
    subscriptionMetadata arguments = [] := by
  unfold createCheckoutSession at created
  cases quantity : resolveQuantity request.tier request.seats with
  | error raised =>
      rw [quantity] at created
      cases created
  | ok quantity' =>
      rw [quantity] at created
      cases created
      rfl

/-- An event of the subscription names no user. -/
theorem SubscriptionEcho.userIdFromEvent
    (created : createCheckoutSession settings user request = .ok arguments)
    {eventObject : EventObject} (echo : SubscriptionEcho arguments eventObject) :
    userIdFromEvent eventObject = none := by
  unfold Billing.userIdFromEvent
  rw [echo.reference]
  cases entries : (get eventObject "metadata").dict? with
  | none => rfl
  | some metadata =>
      have none : metadata = [] := by
        have subset := echo.metadata metadata entries
        rw [subscriptionMetadata_of_created created] at subset
        exact List.eq_nil_of_subset_nil subset
      subst none
      rfl

/-- An event that names no user is acknowledged and otherwise ignored. -/
theorem readEvent_of_anonymous (anonymous : userIdFromEvent (eventObjectOf event) = none) :
    ∃ body, readEvent service event = .ignored body := by
  unfold readEvent
  split
  · rename_i stripeEventType _
    cases webhookEventTypeMap.lookup stripeEventType with
    | none => exact ⟨_, rfl⟩
    | some internalEventType =>
        simp only [anonymous]
        exact ⟨_, rfl⟩
  · exact ⟨_, rfl⟩

theorem projectionOf_of_ignored {body : List (String × String)}
    (ignored : readEvent service event = .ignored body) : projectionOf service event = none := by
  unfold projectionOf
  rw [ignored]

theorem handleWebhook_of_ignored {body : List (String × String)}
    (ignored : readEvent service delivery.event = .ignored body) :
    handleWebhook service stores delivery = (stores, .ok body) := by
  unfold handleWebhook
  rw [ignored]

/-- **No event of the subscription is projected.** Whoever opened the session,
in every run of deliveries of events of its subscription no event is projected
onto any row, and both tables stay as they are. -/
theorem subscription_events_never_projected
    (created : createCheckoutSession settings user request = .ok arguments)
    (echoes : ∀ delivery ∈ deliveries,
      SubscriptionEcho arguments (eventObjectOf delivery.event))
    (run : execute (step service) start deliveries = some final) :
    (∀ delivery ∈ deliveries, ∀ key, ¬ ProjectedOnto service delivery.event key) ∧
      final = start := by
  have ignored : ∀ delivery ∈ deliveries,
      ∃ body, readEvent service delivery.event = .ignored body :=
    fun delivery member => readEvent_of_anonymous ((echoes delivery member).userIdFromEvent created)
  constructor
  · rintro delivery member key ⟨projection, projects, _⟩
    obtain ⟨body, reads⟩ := ignored delivery member
    rw [projectionOf_of_ignored reads] at projects
    cases projects
  · clear echoes
    induction deliveries generalizing start with
    | nil =>
        cases run
        rfl
    | cons delivery rest ih =>
        obtain ⟨next, taken, run⟩ := Option.bind_eq_some_iff.mp run
        obtain ⟨_, rfl⟩ := step_eq_some.mp taken
        obtain ⟨body, reads⟩ := ignored delivery List.mem_cons_self
        rw [handleWebhook_of_ignored reads] at run
        exact ih run fun later member => ignored later (List.mem_cons_of_mem _ member)

/-! ## The life of one subscription -/

/-- The settings of the sample service. -/
def sampleSettings : CheckoutSettings where
  toSettings := sampleService.settings
  stripeSuccessUrl := "https://panakoes.com/ok"
  stripeCancelUrl := "https://panakoes.com/no"

/-- The user of the sample events. -/
def sampleUser : AuthenticatedUser := ⟨"user_1", "user@panakoes.com"⟩

/-- An event of the subscription `sub_1`, with the metadata Stripe has for it. -/
def anonymousEvent (eventId eventType status : String) : Event :=
  [("id", .str eventId), ("type", .str eventType),
    ("data", .dict [("object", .dict
      [("id", .str "sub_1"), ("status", .str status), ("metadata", .dict []),
        ("items", .dict [("data", .list [.dict
          [("price", .dict [("id", .str "price_pro")])]])])])])]

/-- The update and the deletion of the subscription. -/
def anonymousDeliveries : List Delivery :=
  [reliableDelivery (anonymousEvent "evt_update" "customer.subscription.updated" "active") "2",
    reliableDelivery (anonymousEvent "evt_delete" "customer.subscription.deleted" "canceled") "3"]

theorem anonymousDeliveries_echo (arguments : List (String × PyJson)) :
    ∀ delivery ∈ anonymousDeliveries,
      SubscriptionEcho arguments (eventObjectOf delivery.event) := by
  intro delivery member
  have object : ∃ status, eventObjectOf delivery.event =
      eventObjectOf (anonymousEvent "" "" status) := by
    simp only [anonymousDeliveries, List.mem_cons, List.not_mem_nil, or_false] at member
    rcases member with rfl | rfl
    · exact ⟨"active", rfl⟩
    · exact ⟨"canceled", rfl⟩
  obtain ⟨status, object⟩ := object
  rw [object]
  refine ⟨rfl, fun entries held => ?_⟩
  cases held
  exact List.nil_subset _

/-- The theorem on the update and the deletion, after the checkout. -/
theorem subscription_events_never_projected_checkout :
    ∃ arguments start final,
      createCheckoutSession sampleSettings sampleUser ⟨.pro, none⟩ = .ok arguments ∧
      execute (step sampleService) Stores.empty [reliableDelivery checkoutEvent "1"] =
        some start ∧
      execute (step sampleService) start anonymousDeliveries = some final ∧ final = start := by
  obtain ⟨start, checkout, runs⟩ := Option.map_eq_some_iff.mp
    (show (execute (step sampleService) Stores.empty [reliableDelivery checkoutEvent "1"]).map
      (fun stores => (execute (step sampleService) stores anonymousDeliveries).isSome) =
        some true by decide +kernel)
  obtain ⟨final, run⟩ := Option.isSome_iff_exists.mp runs
  obtain ⟨arguments, created⟩ : ∃ arguments,
      createCheckoutSession sampleSettings sampleUser ⟨.pro, none⟩ = .ok arguments := ⟨_, rfl⟩
  exact ⟨arguments, start, final, created, checkout, run,
    (subscription_events_never_projected created (anonymousDeliveries_echo arguments) run).2⟩

/-- The deletion of the subscription reaches no row of the user. -/
theorem deletion_not_projected :
    ¬ ∀ (service : Service) (settings : CheckoutSettings) (user : AuthenticatedUser)
        (request : CheckoutSessionRequest) (arguments : List (String × PyJson)) (event : Event)
        (subscriptionId : String),
      createCheckoutSession settings user request = .ok arguments →
      (get event "type" = .str "customer.subscription.updated" ∨
        get event "type" = .str "customer.subscription.deleted") →
      SubscriptionEcho arguments (eventObjectOf event) →
      get (eventObjectOf event) "id" = .str subscriptionId →
      ProjectedOnto service event (user.userId, subscriptionId) := by
  intro always
  obtain ⟨arguments, created⟩ : ∃ arguments,
      createCheckoutSession sampleSettings sampleUser ⟨.pro, none⟩ = .ok arguments := ⟨_, rfl⟩
  have echo := anonymousDeliveries_echo arguments _ (List.mem_cons_of_mem _ List.mem_cons_self)
  have projected := always sampleService sampleSettings sampleUser _ arguments _ "sub_1" created
    (Or.inr rfl) echo rfl
  exact absurd projected (by decide +kernel)

end Panakoes.Billing
