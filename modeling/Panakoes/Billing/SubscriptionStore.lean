import Mathlib.Order.Bounds.Basic
import Mathlib.Order.MinMax
import Panakoes.Billing.StripeEvent
import Panakoes.Foundation.ConditionalWrite
import Panakoes.Foundation.Table

/-! # The subscriptions table

One row for each subscription of a tenant, put as a whole by every event that is
projected onto it, unless the row already carries that event's id. The plan of a
tenant is the highest that one of its rows with access entitles it to.
-/

namespace Panakoes.Billing

open ConditionalWrite

namespace Plan

/-- `rank` of `get_plan`. -/
def rank : Plan → ℕ
  | .free => 0
  | .pro => 1
  | .team => 2

theorem rank_injective : Function.Injective rank := by
  intro left right same
  cases left <;> cases right <;> first | rfl | cases same

instance : LinearOrder Plan := LinearOrder.lift' rank rank_injective

theorem lt_iff_rank {left right : Plan} : left < right ↔ left.rank < right.rank := Iff.rfl

instance : OrderBot Plan where
  bot := .free
  bot_le plan := Nat.zero_le plan.rank

end Plan

/-! ## Rows -/

/-- The primary key of a row: `tenant_id` and `subscription_id`. -/
abbrev SubscriptionKey := String × String

/-- A row of the subscriptions table. -/
structure SubscriptionRow where
  plan : Plan
  status : String
  quantity : ℤ
  lastEventId : String
  updatedAt : String
  currentPeriodEnd : Option String
  cancelAt : Option String
  stripeCustomerId : Option String
  deriving DecidableEq

/-- The subscriptions table. -/
abbrev SubscriptionTable := Table SubscriptionKey SubscriptionRow

/-- The item `upsert` puts. -/
def SubscriptionState.item (state : SubscriptionState) (eventId now : String) :
    SubscriptionRow where
  plan := state.plan
  status := state.status
  quantity := state.quantity
  lastEventId := eventId
  updatedAt := now
  currentPeriodEnd := state.currentPeriodEnd.map Datetime.isoformat
  cancelAt := state.cancelAt.map Datetime.isoformat
  stripeCustomerId := state.stripeCustomerId.filter (· ≠ "")

/-- The row under the key was last written by the event. -/
def SubscriptionTable.Applied (table : SubscriptionTable) (key : SubscriptionKey)
    (eventId : String) : Prop :=
  (table.lookup key).map SubscriptionRow.lastEventId = some eventId

instance (table : SubscriptionTable) (key : SubscriptionKey) (eventId : String) :
    Decidable (table.Applied key eventId) :=
  inferInstanceAs (Decidable (_ = _))

/-- `SubscriptionStore.upsert`. The reply is `ok` where the source returns
`True`, `conditionalCheckFailed` where it returns `False`, and `failed` where it
raises. -/
def upsert (fault : Fault) (table : SubscriptionTable) (key : SubscriptionKey) (eventId : String)
    (state : SubscriptionState) (now : String) : Outcome SubscriptionTable :=
  send fault table
    (if table.Applied key eventId then none
      else some (table.insert key (state.item eventId now)))

section Upsert

variable {fault : Fault} {table : SubscriptionTable} {key : SubscriptionKey}
  {eventId now : String} {state : SubscriptionState}

/-- An event that its row already carries is not written again. -/
theorem upsert_of_applied (applied : table.Applied key eventId) :
    (upsert fault table key eventId state now).table = table ∧
      (upsert fault table key eventId state now).reply ≠ .ok := by
  unfold upsert
  rw [if_pos applied]
  cases fault <;> simp [send]

/-- Any other event replaces the row, if the request gets to the table. -/
theorem upsert_of_not_applied (new : ¬ table.Applied key eventId) (arrives : fault ≠ .lost) :
    (upsert fault table key eventId state now).table =
      table.insert key (state.item eventId now) := by
  unfold upsert
  rw [if_neg new]
  cases fault with
  | lost => exact absurd rfl arrives
  | _ => rfl

theorem upsert_reply_of_not_applied (new : ¬ table.Applied key eventId) :
    (upsert fault table key eventId state now).reply = fault.reply := by
  unfold upsert
  rw [if_neg new, send_some_reply]

/-- Either the row is replaced as a whole, or nothing changes. -/
theorem upsert_cases (fault : Fault) (table : SubscriptionTable) (key : SubscriptionKey)
    (eventId : String) (state : SubscriptionState) (now : String) :
    (upsert fault table key eventId state now).table = table ∨
      (upsert fault table key eventId state now).table =
        table.insert key (state.item eventId now) := by
  by_cases applied : table.Applied key eventId
  · exact Or.inl (upsert_of_applied applied).1
  · by_cases lost : fault = .lost
    · subst lost
      exact Or.inl send_lost_table
    · exact Or.inr (upsert_of_not_applied applied lost)

theorem applied_insert :
    SubscriptionTable.Applied (table.insert key (state.item eventId now)) key eventId := by
  unfold SubscriptionTable.Applied
  rw [AList.lookup_insert]
  rfl

/-- Where `upsert` returns, the row carries the event. -/
theorem applied_of_upsert
    (returned : (upsert fault table key eventId state now).reply ≠ .failed) :
    (upsert fault table key eventId state now).table.Applied key eventId := by
  by_cases applied : table.Applied key eventId
  · rw [(upsert_of_applied applied).1]
    exact applied
  · rw [upsert_reply_of_not_applied applied] at returned
    have arrives : fault ≠ .lost := by
      intro lost
      exact returned (congrArg Fault.reply lost)
    rw [upsert_of_not_applied applied arrives]
    exact applied_insert

end Upsert

/-! ## The plan of a tenant -/

/-- Whether a row of this status has access. -/
def grantsAccess (status : String) : Bool := status ∈ ["active", "trialing", "past_due"]

/-- The plan a state entitles to. -/
def entitled (status : String) (plan : Plan) : Plan := if grantsAccess status then plan else .free

/-- The plan a row entitles to. -/
def SubscriptionRow.entitlement (row : SubscriptionRow) : Plan := entitled row.status row.plan

/-- `SubscriptionStore.get_plan`. -/
def getPlan (table : SubscriptionTable) (tenantId : String) : Plan :=
  (table.entries.filter (·.1.1 = tenantId)).foldl
    (fun best entry =>
      if grantsAccess entry.2.status ∧ best.rank < entry.2.plan.rank then entry.2.plan else best)
    .free

/-- One row of the loop: the better of what was best and of what it entitles to. -/
theorem better_eq_max (best : Plan) (row : SubscriptionRow) :
    (if grantsAccess row.status ∧ best.rank < row.plan.rank then row.plan else best) =
      max best row.entitlement := by
  unfold SubscriptionRow.entitlement entitled
  by_cases access : grantsAccess row.status
  · simp only [access, true_and, ↓reduceIte, ← Plan.lt_iff_rank]
    by_cases better : best < row.plan
    · rw [if_pos better, max_eq_right better.le]
    · rw [if_neg better, max_eq_left (not_lt.mp better)]
  · rw [if_neg (fun both => access both.1), if_neg access]
    exact (max_eq_left bot_le).symm

/-- The loop finds the greatest of the plans it has seen. -/
theorem le_foldl_max_iff (plan best : Plan) (entries : List (Sigma fun _ : SubscriptionKey =>
    SubscriptionRow)) :
    plan ≤ entries.foldl (fun best entry => max best entry.2.entitlement) best ↔
      plan ≤ best ∨ ∃ entry ∈ entries, plan ≤ entry.2.entitlement := by
  induction entries generalizing best with
  | nil => simp
  | cons entry rest ih =>
      rw [List.foldl_cons, ih, le_max_iff, or_assoc]
      simp only [List.mem_cons, exists_eq_or_imp]

/-- A tenant has a plan, or a higher one, exactly when some row of the tenant
entitles it to that. -/
theorem le_getPlan_iff {table : SubscriptionTable} {tenantId : String} {plan : Plan} :
    plan ≤ getPlan table tenantId ↔
      plan = .free ∨ ∃ subscriptionId row, table.lookup (tenantId, subscriptionId) = some row ∧
        plan ≤ row.entitlement := by
  unfold getPlan
  simp only [better_eq_max]
  rw [le_foldl_max_iff]
  have bottom : plan ≤ .free ↔ plan = .free := le_bot_iff
  rw [bottom]
  refine or_congr Iff.rfl ⟨?_, ?_⟩
  · rintro ⟨⟨⟨tenant, subscriptionId⟩, row⟩, member, reaches⟩
    obtain ⟨stored, mine⟩ := List.mem_filter.mp member
    have same : tenant = tenantId := by simpa using mine
    subst same
    exact ⟨subscriptionId, row, AList.mem_lookup_iff.mpr stored, reaches⟩
  · rintro ⟨subscriptionId, row, held, reaches⟩
    refine ⟨⟨(tenantId, subscriptionId), row⟩, List.mem_filter.mpr ⟨?_, by simp⟩, reaches⟩
    exact AList.mem_lookup_iff.mp held

/-- What the row under a key entitles to; nothing is free. -/
def SubscriptionTable.entitlement (table : SubscriptionTable) (key : SubscriptionKey) : Plan :=
  ((table.lookup key).map SubscriptionRow.entitlement).getD .free

/-- The plan of a tenant is the highest that its rows entitle to. -/
theorem isLUB_getPlan (table : SubscriptionTable) (tenantId : String) :
    IsLUB (Set.range fun subscriptionId => table.entitlement (tenantId, subscriptionId))
      (getPlan table tenantId) := by
  constructor
  · rintro _ ⟨subscriptionId, rfl⟩
    simp only [SubscriptionTable.entitlement]
    cases held : table.lookup (tenantId, subscriptionId) with
    | none => exact bot_le
    | some row => exact le_getPlan_iff.mpr (Or.inr ⟨subscriptionId, row, held, le_rfl⟩)
  · intro bound upper
    rcases le_getPlan_iff.mp (le_refl (getPlan table tenantId)) with free | paid
    · rw [free]
      exact bot_le
    · obtain ⟨subscriptionId, row, held, reaches⟩ := paid
      have above : table.entitlement (tenantId, subscriptionId) ≤ bound := upper ⟨_, rfl⟩
      simp only [SubscriptionTable.entitlement, held, Option.map_some, Option.getD_some] at above
      exact reaches.trans above

end Panakoes.Billing
