import Panakoes.Billing.Webhook
import Panakoes.Foundation.Run

/-! # Delivering an event again

The handler remembers of a subscription row only the event that wrote it last,
and of an event without a row write nothing at all. Delivering a processed event
again is harmless exactly while its row still carries its id, or when the
handler ignores it anyway.
-/

namespace Panakoes.Billing

open Transition ConditionalWrite

variable {service : Service}

/-- The handler ignores the event, or its row still carries its id. -/
def Settled (service : Service) (stores : Stores) (event : Event) : Prop :=
  match readEvent service event with
  | .ignored _ => True
  | .raises _ => False
  | .acts work => ∃ projection ∈ work.projection, projection.Applied stores.subscriptions

instance (service : Service) (stores : Stores) (event : Event) :
    Decidable (Settled service stores event) :=
  match read : readEvent service event with
  | .ignored _ => .isTrue (by simp only [Settled, read])
  | .raises _ => .isFalse (by simp only [Settled, read, not_false_eq_true])
  | .acts work =>
      decidable_of_iff (∃ projection ∈ work.projection, projection.Applied stores.subscriptions)
        (by simp only [Settled, read])

/-- The event was answered with a 200 somewhere in a run from `start` to `final`. -/
def Processed (service : Service) (start : Stores) (deliveries : List Delivery) (final : Stores)
    (event : Event) : Prop :=
  ∃ before first later earlier, deliveries = before ++ first :: later ∧ first.event = event ∧
    execute (step service) start before = some earlier ∧
    (handleWebhook service earlier first).2.toBool = true ∧
    execute (step service) earlier (first :: later) = some final

variable {stores start final : Stores} {deliveries : List Delivery} {delivery : Delivery}
  {event : Event}

theorem handleWebhook_of_settled (settled : Settled service stores delivery.event) :
    (handleWebhook service stores delivery).1 = stores := by
  unfold Settled at settled
  cases read : readEvent service delivery.event with
  | ignored body => simp only [handleWebhook, read]
  | raises error =>
      rw [read] at settled
      exact settled.elim
  | acts work =>
      rw [read] at settled
      obtain ⟨projection, projects, applied⟩ := settled
      exact handleWebhook_of_applied read projects applied

/-- An event that is neither ignored nor marked on its row is appended to the log. -/
theorem settled_of_unchanged (unused : stores.eventLog.Unused delivery.ulid)
    (reliable : delivery.Reliable)
    (processes : ∀ error, readEvent service delivery.event ≠ .raises error)
    (unchanged : (handleWebhook service stores delivery).1 = stores) :
    Settled service stores delivery.event := by
  obtain ⟨upserts, appends, _⟩ := reliable
  have arrives : delivery.appendFault ≠ .lost := by
    rw [appends]
    exact Fault.noConfusion
  unfold Settled
  cases read : readEvent service delivery.event with
  | ignored body => trivial
  | raises error => exact processes error read
  | acts work =>
      cases projects : work.projection with
      | none =>
          rw [handleWebhook_unprojected read projects] at unchanged
          have grown := congrArg Stores.eventLog unchanged
          rw [recordWork_eventLog_of_arrives arrives] at grown
          exact (unused.insert_ne _ grown).elim
      | some projection =>
          refine ⟨projection, projects, ?_⟩
          by_contra new
          have ok : (projection.upsert delivery stores.subscriptions).reply = .ok := by
            unfold Projection.upsert
            rw [upsert_reply_of_not_applied new, upserts]
            rfl
          rw [handleWebhook_projected read projects, ok] at unchanged
          have grown := congrArg Stores.eventLog unchanged
          rw [recordWork_eventLog_of_arrives arrives] at grown
          exact unused.insert_ne _ grown

/-- An event that was answered with a 200 is one the handler can read. -/
theorem Processed.ne_raises (processed : Processed service start deliveries final event)
    (error : PyError) : readEvent service event ≠ .raises error := by
  intro raises
  obtain ⟨_, first, _, earlier, _, rfl, _, answered, _⟩ := processed
  simp only [handleWebhook, raises] at answered
  cases answered

/-- **When a replay is harmless.** After any run in which an event was answered
with a 200, every further delivery of it leaves the subscriptions table and the
event log as they are if and only if the handler ignores the event or the
event's row still carries its id. -/
theorem replay_harmless_iff (processed : Processed service start deliveries final event) :
    (∀ again after, again.event = event → step service final again = some after →
      after = final) ↔ Settled service final event := by
  constructor
  · intro harmless
    obtain ⟨again, after, rfl, reliable, taken⟩ := exists_reliable service final event
    have unchanged := harmless again after rfl taken
    obtain ⟨unused, rfl⟩ := step_eq_some.mp taken
    exact settled_of_unchanged unused reliable processed.ne_raises unchanged
  · intro settled again after same taken
    obtain ⟨_, rfl⟩ := step_eq_some.mp taken
    exact handleWebhook_of_settled (same ▸ settled)

/-- The theorem on an update that is delivered again at once. -/
theorem replay_harmless_iff_update :
    ∃ final, execute (step sampleService) Stores.empty [reliableDelivery updateEvent "1"] =
        some final ∧
      ∀ again after, again.event = updateEvent → step sampleService final again = some after →
        after = final := by
  have reached : (execute (step sampleService) Stores.empty
      [reliableDelivery updateEvent "1"]).map (fun stores =>
        decide (Settled sampleService stores updateEvent)) = some true := by
    decide +kernel
  obtain ⟨final, run, settled⟩ := Option.map_eq_some_iff.mp reached
  rw [decide_eq_true_eq] at settled
  have processed : Processed sampleService Stores.empty [reliableDelivery updateEvent "1"] final
      updateEvent :=
    ⟨[], _, [], Stores.empty, rfl, rfl, rfl, by decide +kernel, run⟩
  exact ⟨final, run, (replay_harmless_iff processed).mpr settled⟩

/-- An update that is delivered again after the deletion. -/
def lateReplayRun : List Delivery :=
  [reliableDelivery updateEvent "1", reliableDelivery deletionEvent "2"]

/-- It restores the plan. -/
theorem replay_restores_plan :
    ¬ ∀ (service : Service) (start final : Stores) (deliveries : List Delivery) (event : Event),
      Processed service start deliveries final event → ∀ again after, again.event = event →
      step service final again = some after → after = final := by
  intro always
  have reached : (execute (step sampleService) Stores.empty lateReplayRun).bind (fun stores =>
      (step sampleService stores (reliableDelivery updateEvent "3")).map fun after =>
        (getPlan stores.subscriptions "user_1", getPlan after.subscriptions "user_1")) =
      some (.free, .pro) := by
    decide +kernel
  obtain ⟨final, run, plans⟩ := Option.bind_eq_some_iff.mp reached
  obtain ⟨after, taken, plans⟩ := Option.map_eq_some_iff.mp plans
  have processed : Processed sampleService Stores.empty lateReplayRun final updateEvent :=
    ⟨[], _, [_], Stores.empty, rfl, rfl, rfl, by decide +kernel, run⟩
  have unchanged := always _ _ _ _ _ processed _ after rfl taken
  rw [unchanged, Prod.mk.injEq] at plans
  cases plans.1.symm.trans plans.2

/-! ## How long a replay stays harmless -/

variable {projection : Projection}

/-- A delivery takes the mark off a row only by projecting another event onto it. -/
theorem Projection.Applied.handleWebhook (applied : projection.Applied stores.subscriptions)
    (undisturbed : ∀ other ∈ projectionOf service delivery.event, other.key = projection.key →
      other.stripeEventId = projection.stripeEventId) :
    projection.Applied (handleWebhook service stores delivery).1.subscriptions := by
  unfold Projection.Applied SubscriptionTable.Applied
  rcases handleWebhook_lookup_cases service stores delivery projection.key with
    unchanged | ⟨other, projects, sameRow, replaced⟩
  · rw [unchanged]
    exact applied
  · rw [replaced]
    exact congrArg some (undisturbed other projects sameRow)

/-- A 200 answer to an event with a row write means that the row carries it. -/
theorem applied_of_answered (projects : projectionOf service delivery.event = some projection)
    (answered : (handleWebhook service stores delivery).2.toBool = true) :
    projection.Applied (handleWebhook service stores delivery).1.subscriptions := by
  obtain ⟨work, read, projects⟩ := projectionOf_eq_some.mp projects
  rw [handleWebhook_subscriptions read projects]
  apply applied_of_upsert
  intro failed
  rw [handleWebhook_projected read projects] at answered
  simp only [Projection.upsert, failed] at answered
  cases answered

/-- The mark stays through a run that projects no other event onto the row. -/
theorem Projection.Applied.execute (applied : projection.Applied stores.subscriptions)
    (undisturbed : ∀ delivery ∈ deliveries, ∀ other ∈ projectionOf service delivery.event,
      other.key = projection.key → other.stripeEventId = projection.stripeEventId)
    (run : execute (step service) stores deliveries = some final) :
    projection.Applied final.subscriptions := by
  induction deliveries generalizing stores with
  | nil =>
      cases run
      exact applied
  | cons delivery rest ih =>
      obtain ⟨next, taken, run⟩ := Option.bind_eq_some_iff.mp run
      obtain ⟨_, rfl⟩ := step_eq_some.mp taken
      have here := undisturbed delivery List.mem_cons_self
      exact ih (applied.handleWebhook here)
        (fun later member => undisturbed later (List.mem_cons_of_mem _ member)) run

/-- Once an event with a row write has been answered with a 200, delivering it
again is harmless until another event is projected onto its row. -/
theorem replay_harmless_of_undisturbed {first again : Delivery} {later : List Delivery}
    {after : Stores} (projects : projectionOf service first.event = some projection)
    (answered : (handleWebhook service start first).2.toBool = true)
    (undisturbed : ∀ delivery ∈ later, ∀ other ∈ projectionOf service delivery.event,
      other.key = projection.key → other.stripeEventId = projection.stripeEventId)
    (run : Transition.execute (step service) start (first :: later) = some final)
    (same : again.event = first.event) (taken : step service final again = some after) :
    after = final := by
  obtain ⟨next, firstTaken, run⟩ := Option.bind_eq_some_iff.mp run
  obtain ⟨_, rfl⟩ := step_eq_some.mp firstTaken
  have applied := (applied_of_answered projects answered).execute undisturbed run
  obtain ⟨work, read, projects⟩ := projectionOf_eq_some.mp projects
  obtain ⟨_, rfl⟩ := step_eq_some.mp taken
  rw [← same] at read
  exact handleWebhook_of_applied read projects applied

end Panakoes.Billing
