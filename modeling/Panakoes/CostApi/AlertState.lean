import Panakoes.CostApi.RollupStore
import Panakoes.Foundation.BatchLoop
import Panakoes.Foundation.DynamoValue
import Panakoes.Foundation.PagedScan
import Panakoes.Foundation.PyFloat

/-! # The alert-state table

The rows of the table as the feed of active alerts reads them. A row that lacks an attribute, or whose
payload is no anomaly, is skipped; the second a row expires at is converted after these guards. Sets
and bytes stand as lists, which no conversion takes either.
-/

namespace Panakoes.CostApi

/-- `CostAnomaly`. A deviation that is not finite is `none`. -/
structure CostAnomaly (Datetime : Type) where
  signature : String
  detector : String
  tenantId : Option String
  dimensionKey : String
  observedCostCents : ℤ
  expectedCostCents : ℤ
  deviationPct : Option ℚ
  firstSeen : Datetime
  lastSeen : Datetime
  suppressed : Bool

/-- `AlertStateRow`. -/
structure AlertStateRow (Datetime : Type) where
  signature : String
  expiresAt : ℤ
  anomaly : CostAnomaly Datetime

/-- `CostAnomaly.model_validate_json`, which is `none` for a `ValidationError`, and `str(value)`. -/
structure Hydration (Datetime : Type) where
  validate : String → Option (CostAnomaly Datetime)
  str : PyValue → String

namespace AlertState

open DynamoValue (Item)

variable {Datetime : Type} (hydration : Hydration Datetime)

/-- `item.get(name)`. -/
def get (item : Item) (name : String) : PyValue := (item.lookup name).getD .none

/-- `value is None`. -/
def isNone : PyValue → Bool
  | .none => true
  | _ => false

/-- `_row_from_item`. -/
def rowFromItem (item : Item) : Except PyError (Option (AlertStateRow Datetime)) :=
  let signature := get item "alert_signature"
  let expiresAtRaw := get item "expires_at"
  if isNone signature ∨ isNone (get item "payload") ∨ isNone expiresAtRaw then .ok none
  else
    match get item "payload" with
    | .str payload =>
        match hydration.validate payload with
        | none => .ok none
        | some anomaly => do
            let expiresAt ← PyInt.ofValue expiresAtRaw
            return some ⟨hydration.str signature, expiresAt, anomaly⟩
    | _ => .ok none

/-- A row that expires in the future. -/
def activeRow (nowEpoch : ℤ) (item : Item) : Except PyError (Option (AlertStateRow Datetime)) := do
  let row ← rowFromItem hydration item
  return row.filter fun row => nowEpoch < row.expiresAt

/-- `scan_active`, when the store stops the pages of the scan after so many rows. -/
def scanActive (items : List Item) (sizes : List ℕ) (nowEpoch : ℤ) :
    Except PyError (List (AlertStateRow Datetime)) :=
  SkippingLoop.collect (activeRow hydration nowEpoch)
    (PagedScan.readAll (PagedScan.pages (fun _ => true) items 0 sizes))

/-- An item that has a signature, a valid payload and an expiry has one that `int` takes. -/
def Readable (item : Item) : Prop :=
  isNone (get item "alert_signature") = false → isNone (get item "expires_at") = false →
    ∀ payload, get item "payload" = .str payload → (hydration.validate payload).isSome = true →
      (PyInt.ofValue (get item "expires_at")).isOk = true

variable {hydration}

theorem isOk_rowFromItem_iff (item : Item) :
    (rowFromItem hydration item).isOk = true ↔ Readable hydration item := by
  unfold rowFromItem Readable
  dsimp only
  split
  · rename_i absent
    apply iff_of_true rfl
    intro signature expiry payload text _
    rw [signature, text, expiry] at absent
    simp [isNone] at absent
  · rename_i present
    rw [not_or, not_or, Bool.not_eq_true, Bool.not_eq_true, Bool.not_eq_true] at present
    obtain ⟨signature, -, expiry⟩ := present
    rw [forall_prop_of_true signature, forall_prop_of_true expiry]
    split
    · rename_i payload text
      rw [text]
      split
      · rename_i invalid
        apply iff_of_true rfl
        intro other same valid
        cases same
        rw [invalid] at valid
        cases valid
      · rename_i anomaly valid
        have converts : ∀ expiresAtRaw : PyValue,
            (PyInt.ofValue expiresAtRaw >>= fun expiresAt => pure (some (AlertStateRow.mk
              (hydration.str (get item "alert_signature")) expiresAt anomaly)) :
                Except PyError _).isOk = true ↔ (PyInt.ofValue expiresAtRaw).isOk = true :=
          fun _ => (Except.isOk_bind_iff fun _ _ => iff_true_intro rfl).trans (and_iff_left trivial)
        rw [converts]
        constructor
        · intro returns _ _ _
          exact returns
        · intro readable
          exact readable payload rfl (by rw [valid]; rfl)
    · rename_i other
      apply iff_of_true rfl
      intro payload text
      exact absurd text (other payload)

theorem isOk_activeRow_iff (nowEpoch : ℤ) (item : Item) :
    (activeRow hydration nowEpoch item).isOk = true ↔ Readable hydration item := by
  rw [← isOk_rowFromItem_iff]
  exact (Except.isOk_bind_iff fun _ _ => iff_true_intro rfl).trans (and_iff_left trivial)

/-- The scan is isolated if and only if every row is readable, however the store stops its pages. -/
theorem scanActive_iff (items : List Item) (sizes : List ℕ) (nowEpoch : ℤ) :
    scanActive hydration items sizes nowEpoch =
        .ok (items.filterMap (SkippingLoop.converted (activeRow hydration nowEpoch))) ↔
      ∀ item ∈ items, Readable hydration item := by
  unfold scanActive
  rw [PagedScan.readAll_pages, List.filter_true]
  exact SkippingLoop.isolated_iff.trans (forall₂_congr fun item _ => isOk_activeRow_iff nowEpoch item)

end AlertState

end Panakoes.CostApi
