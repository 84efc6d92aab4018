import Panakoes.Billing.Webhook

/-! # Failures between the two writes

The row of a subscription is the only mark that an event has been handled, and
it is written before the event log. An attempt that fails after the row write
is therefore answered as a duplicate when it is repeated, and what it has not
logged by then is never logged.
-/

namespace Panakoes.Billing

open ConditionalWrite

variable {service : Service} {stores start final : Stores} {delivery : Delivery}
  {attempts : List Delivery} {event : Event} {projection : Projection}

/-- Deliver an event until it is answered with a 200: the tables after that
answer, or `none` if none of the attempts is answered so. -/
def deliverUntilAnswered (service : Service) (stores : Stores) : List Delivery → Option Stores
  | [] => none
  | attempt :: rest =>
      if stores.eventLog.Unused attempt.ulid then
        match handleWebhook service stores attempt with
        | (after, .ok _) => some after
        | (after, .error _) => deliverUntilAnswered service after rest
      else none

/-- The event is on its row, and in the log once more than before. -/
def Recorded (service : Service) (event : Event) (before after : Stores) : Prop :=
  ∃ work projection, readEvent service event = .acts work ∧ work.projection = some projection ∧
    (∃ now, after.subscriptions.lookup projection.key = some (projection.item now)) ∧
    ∃ ulid now, before.eventLog.Unused ulid ∧
      after.eventLog = before.eventLog.insert (eventKey work.userId ulid) (work.item ulid now)

/-- The event has a row to be projected onto; at the first attempt whose upsert
gets to the table, the upsert is answered and the append gets to the log. -/
def FirstWriteEndsWell (service : Service) (event : Event) (attempts : List Delivery) : Prop :=
  (projectionOf service event).isSome ∧
    ∀ attempt ∈ attempts.find? (fun attempt => attempt.upsertFault ≠ .lost),
      attempt.upsertFault = .none ∧ attempt.appendFault ≠ .lost

instance (service : Service) (event : Event) (attempts : List Delivery) :
    Decidable (FirstWriteEndsWell service event attempts) :=
  inferInstanceAs (Decidable (_ ∧ ∀ attempt ∈ attempts.find? _, _))

/-! ## One attempt -/

/-- An attempt whose upsert does not get to the table changes nothing and fails. -/
theorem handleWebhook_of_lost (projects : projectionOf service delivery.event = some projection)
    (new : ¬ projection.Applied stores.subscriptions) (lost : delivery.upsertFault = .lost) :
    handleWebhook service stores delivery = (stores, .error .clientError) := by
  obtain ⟨work, read, writes⟩ := projectionOf_eq_some.mp projects
  have failed : (projection.upsert delivery stores.subscriptions).reply = .failed := by
    unfold Projection.upsert
    rw [upsert_reply_of_not_applied new, lost]
    rfl
  have unchanged : (projection.upsert delivery stores.subscriptions).table =
      stores.subscriptions := by
    unfold Projection.upsert upsert
    rw [lost, send_lost_table]
  rw [handleWebhook_projected read writes, failed, unchanged]

/-- An attempt that writes the row goes on to the log only if the upsert returns. -/
theorem handleWebhook_eventLog_of_new {work : WebhookWork}
    (read : readEvent service delivery.event = .acts work)
    (writes : work.projection = some projection)
    (new : ¬ projection.Applied stores.subscriptions) :
    (handleWebhook service stores delivery).1.eventLog =
      if delivery.upsertFault = .none ∧ delivery.appendFault ≠ .lost then
        stores.eventLog.insert (eventKey work.userId delivery.ulid)
          (work.item delivery.ulid delivery.createdAt)
      else stores.eventLog := by
  rw [handleWebhook_projected read writes]
  have reply : (projection.upsert delivery stores.subscriptions).reply =
      delivery.upsertFault.reply := upsert_reply_of_not_applied new
  by_cases returns : delivery.upsertFault = .none
  · rw [reply, returns]
    by_cases appended : delivery.appendFault = .lost
    · rw [if_neg fun both => both.2 appended]
      simp only [Fault.reply, recordWork_eventLog, append, appended, put]
    · rw [if_pos ⟨rfl, appended⟩]
      exact recordWork_eventLog_of_arrives appended
  · rw [if_neg fun both => returns both.1, reply]
    cases fault : delivery.upsertFault with
    | none => exact absurd fault returns
    | _ => rfl

/-! ## A sequence of attempts -/

/-- Once its row carries the event, further attempts change nothing. -/
theorem deliverUntilAnswered_of_applied (projects : projectionOf service event = some projection)
    (same : ∀ attempt ∈ attempts, attempt.event = event)
    (applied : projection.Applied stores.subscriptions)
    (answered : deliverUntilAnswered service stores attempts = some final) : final = stores := by
  induction attempts with
  | nil => cases answered
  | cons attempt rest ih =>
      obtain ⟨work, read, writes⟩ := projectionOf_eq_some.mp projects
      have unchanged : (handleWebhook service stores attempt).1 = stores :=
        handleWebhook_of_applied ((same attempt List.mem_cons_self) ▸ read) writes applied
      unfold deliverUntilAnswered at answered
      split at answered
      · split at answered
        · rename_i after _ outcome
          rw [outcome] at unchanged
          cases answered
          exact unchanged
        · rename_i after _ outcome
          rw [outcome] at unchanged
          subst unchanged
          exact ih (fun later member => same later (List.mem_cons_of_mem _ member)) answered
      · cases answered

/-- The first attempt that writes the row decides. -/
theorem deliverUntilAnswered_of_arrives {rest : List Delivery}
    (projects : projectionOf service event = some projection)
    (same : ∀ attempt ∈ delivery :: rest, attempt.event = event)
    (new : ¬ projection.Applied stores.subscriptions) (arrives : delivery.upsertFault ≠ .lost)
    (answered : deliverUntilAnswered service stores (delivery :: rest) = some final) :
    stores.eventLog.Unused delivery.ulid ∧ final = (handleWebhook service stores delivery).1 := by
  have here : projectionOf service delivery.event = some projection := by
    rw [same delivery List.mem_cons_self]
    exact projects
  have written := handleWebhook_subscriptions_of_new here new arrives
  unfold deliverUntilAnswered at answered
  split at answered
  · rename_i unused
    refine ⟨unused, ?_⟩
    split at answered
    · rename_i after _ outcome
      rw [outcome]
      exact (Option.some.inj answered).symm
    · rename_i after _ outcome
      rw [outcome] at written ⊢
      have applied : projection.Applied after.subscriptions := by
        unfold Projection.Applied
        rw [written]
        exact applied_insert
      exact deliverUntilAnswered_of_applied projects
        (fun later member => same later (List.mem_cons_of_mem _ member)) applied answered
  · cases answered

/-- What the first write leaves is a record exactly when it ends well. -/
theorem recorded_iff_of_arrives (projects : projectionOf service delivery.event = some projection)
    (new : ¬ projection.Applied stores.subscriptions) (arrives : delivery.upsertFault ≠ .lost)
    (unused : stores.eventLog.Unused delivery.ulid) :
    Recorded service delivery.event stores (handleWebhook service stores delivery).1 ↔
      delivery.upsertFault = .none ∧ delivery.appendFault ≠ .lost := by
  obtain ⟨work, read, writes⟩ := projectionOf_eq_some.mp projects
  have log := handleWebhook_eventLog_of_new read writes new
  constructor
  · rintro ⟨_, _, _, _, _, ulid, now, fresh, logged⟩
    by_contra badly
    rw [logged, if_neg badly] at log
    exact fresh.insert_ne _ log
  · intro well
    rw [if_pos well] at log
    refine ⟨work, projection, read, writes, ⟨delivery.updatedAt, ?_⟩, delivery.ulid,
      delivery.createdAt, unused, log⟩
    rw [handleWebhook_subscriptions_of_new projects new arrives, AList.lookup_insert]

/-- Attempts whose upsert gets lost leave everything to the first other one. -/
theorem recorded_iff_of_projects (same : ∀ attempt ∈ attempts, attempt.event = event)
    (projects : projectionOf service event = some projection)
    (new : ¬ projection.Applied start.subscriptions)
    (answered : deliverUntilAnswered service start attempts = some final) :
    Recorded service event start final ↔
      ∀ attempt ∈ attempts.find? (fun attempt => attempt.upsertFault ≠ .lost),
        attempt.upsertFault = .none ∧ attempt.appendFault ≠ .lost := by
  induction attempts with
  | nil => cases answered
  | cons attempt rest ih =>
      have sameRest : ∀ later ∈ rest, later.event = event :=
        fun later member => same later (List.mem_cons_of_mem _ member)
      have here := same attempt List.mem_cons_self
      by_cases lost : attempt.upsertFault = .lost
      · rw [List.find?_cons_of_neg (by simp [lost])]
        apply ih sameRest
        unfold deliverUntilAnswered at answered
        rw [handleWebhook_of_lost (here ▸ projects) new lost] at answered
        split at answered
        · exact answered
        · cases answered
      · rw [List.find?_cons_of_pos (by simp [lost])]
        obtain ⟨unused, rfl⟩ := deliverUntilAnswered_of_arrives projects same new lost answered
        rw [← here, recorded_iff_of_arrives (here ▸ projects) new lost unused]
        simp

/-- **When the record survives.** An event that is new to its row, delivered
until it is answered with a 200, is then on its row and exactly once in the
event log if and only if it has a row and the first attempt that writes the row
gets an answer to that write and gets its append to the log. -/
theorem recorded_iff (same : ∀ attempt ∈ attempts, attempt.event = event)
    (unseen : ∀ projection ∈ projectionOf service event, ¬ projection.Applied start.subscriptions)
    (answered : deliverUntilAnswered service start attempts = some final) :
    Recorded service event start final ↔ FirstWriteEndsWell service event attempts := by
  unfold FirstWriteEndsWell
  cases projects : projectionOf service event with
  | none =>
      refine iff_of_false ?_ (fun well => by cases well.1)
      rintro ⟨work, projection, read, writes, _⟩
      cases projects.symm.trans (projectionOf_eq_some.mpr ⟨work, read, writes⟩)
  | some projection =>
      simp only [Option.isSome_some, true_and]
      exact recorded_iff_of_projects same projects (unseen projection projects) answered

/-! ## Attempts to deliver an update -/

/-- The first upsert gets lost, then the answer to an append, then nothing. -/
def appendUnansweredRun : List Delivery :=
  [⟨updateEvent, .lost, "t", .none, "1", "t", true⟩,
    ⟨updateEvent, .none, "t", .unacked, "2", "t", true⟩, reliableDelivery updateEvent "3"]

/-- The theorem on these attempts. -/
theorem recorded_iff_appendUnanswered :
    ∃ final, deliverUntilAnswered sampleService Stores.empty appendUnansweredRun = some final ∧
      Recorded sampleService updateEvent Stores.empty final := by
  obtain ⟨final, answered⟩ := Option.isSome_iff_exists.mp
    (show (deliverUntilAnswered sampleService Stores.empty appendUnansweredRun).isSome by
      decide +kernel)
  have same : ∀ attempt ∈ appendUnansweredRun, attempt.event = updateEvent := by
    simp [appendUnansweredRun, reliableDelivery]
  have unseen : ∀ projection ∈ projectionOf sampleService updateEvent,
      ¬ projection.Applied Stores.empty.subscriptions := by
    decide +kernel
  exact ⟨final, answered, (recorded_iff same unseen answered).mpr (by decide +kernel)⟩

/-- The append of the first attempt gets lost. -/
def appendLostRun : List Delivery :=
  [⟨updateEvent, .none, "t", .lost, "1", "t", true⟩, reliableDelivery updateEvent "2"]

/-- The update is answered with a 200 and is not in the log. -/
theorem lost_append_never_logged :
    ¬ ∀ (service : Service) (event : Event) (start final : Stores) (attempts : List Delivery),
      (projectionOf service event).isSome → (∀ attempt ∈ attempts, attempt.event = event) →
      (∀ projection ∈ projectionOf service event, ¬ projection.Applied start.subscriptions) →
      deliverUntilAnswered service start attempts = some final →
      Recorded service event start final := by
  intro always
  have logged : (deliverUntilAnswered sampleService Stores.empty appendLostRun).map
      (fun stores => stores.eventLog.keys.length) = some 0 := by
    decide +kernel
  obtain ⟨final, answered, empty⟩ := Option.map_eq_some_iff.mp logged
  have same : ∀ attempt ∈ appendLostRun, attempt.event = updateEvent := by
    simp [appendLostRun, reliableDelivery]
  obtain ⟨_, _, _, _, _, _, _, _, grown⟩ := always sampleService updateEvent Stores.empty final
    appendLostRun (by decide +kernel) same (by decide +kernel) answered
  rw [grown] at empty
  simp [Stores.empty] at empty

end Panakoes.Billing
