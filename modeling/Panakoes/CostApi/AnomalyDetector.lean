import Panakoes.CostApi.AlertState

/-! # The anomalies of Cost Explorer

An anomaly is mapped field by field. One without an id is skipped; a nested document of another shape,
an amount that is no number, or one that is too large raises out of the loop.
-/

namespace Panakoes.CostApi

open PyJson (get getD)

/-- How Python rounds a number to a float, what `str` and `datetime.fromisoformat` give, and what the
clock says. -/
structure DetectorPython (Datetime : Type) where
  round : ℚ → Option ℚ
  str : PyJson → String
  fromisoformat : String → Option Datetime
  now : Datetime

/-- An anomaly as Cost Explorer returns it. -/
abbrev AnomalyEntry := List (String × PyJson)

namespace DetectorPython

variable {Datetime : Type} (python : DetectorPython Datetime)

/-- `float(value)`. -/
def float (value : PyJson) : Except PyError (Option ℚ) :=
  match PyFloat.ofJson python.round value with
  | .ok value => .ok value
  | .error .valueError => .error .valueError
  | .error _ => .error .other

/-- `round(amount * 100)`. What is not finite raises. -/
def roundCents (amount : Option ℚ) : Except PyError ℤ :=
  match amount.bind fun value => python.round (value * 100) with
  | some product => .ok (Rounding.halfEven product)
  | none => .error .other

/-- The percentage of a deviation, if Cost Explorer does not say it. -/
def localDeviation (observedCents expectedCents : ℤ) : Except PyError (Option ℚ) :=
  if expectedCents = 0 then .ok (some 0)
  else
    match python.round (((observedCents - expectedCents : ℤ) : ℚ) / expectedCents) with
    | some ratio => .ok (python.round (ratio * 100))
    | none => .error .other

/-- `_parse_ce_date`. -/
def parseCeDate : PyJson → Datetime
  | .str text => if text = "" then python.now else (python.fromisoformat text).getD python.now
  | _ => python.now

/-- The label of a first root cause. -/
def rootCauseLabel (anomalyId : PyJson) : PyJson → String
  | .dict cause =>
      let parts := [get cause "Service", get cause "LinkedAccount", get cause "UsageType"].filter
        PyJson.truthy
      if parts = [] then python.str anomalyId else " | ".intercalate (parts.map python.str)
  | _ => python.str anomalyId

end DetectorPython

/-- `entry.get("AnomalyId") or entry.get("AnomalyScore", {}).get("AnomalyId")`. -/
def anomalyIdOf (entry : AnomalyEntry) : Except PyError PyJson :=
  if (get entry "AnomalyId").truthy then .ok (get entry "AnomalyId")
  else
    match getD entry "AnomalyScore" (.dict []) with
    | .dict score => .ok (get score "AnomalyId")
    | _ => .error .attributeError

/-- `entry.get("Impact", {}) or {}`, of which attributes are asked. -/
def impactOf (entry : AnomalyEntry) : Except PyError (List (String × PyJson)) :=
  match (getD entry "Impact" (.dict [])).orElse (.dict []) with
  | .dict impact => .ok impact
  | _ => .error .attributeError

section Mapping

variable {Datetime : Type} (python : DetectorPython Datetime)

/-- `float(impact.get(name, 0) or 0)`. -/
def spendOf (impact : List (String × PyJson)) (name : String) : Except PyError (Option ℚ) :=
  python.float ((getD impact name (.int 0)).orElse (.int 0))

/-- `deviation_pct_value`. -/
def deviationOf (impact : List (String × PyJson)) (observedCents expectedCents : ℤ) :
    Except PyError (Option ℚ) :=
  match get impact "TotalImpactPercentage" with
  | .none => python.localDeviation observedCents expectedCents
  | value => python.float value

/-- `dimension_key`. -/
def dimensionKeyOf (anomalyId : PyJson) (entry : AnomalyEntry) : Except PyError String :=
  let rootCauses := (getD entry "RootCauses" (.list [])).orElse (.list [])
  match rootCauses with
  | .list [] => .ok (python.str anomalyId)
  | .list (first :: _) => .ok (python.rootCauseLabel anomalyId first)
  | .str _ => .ok (python.str anomalyId)
  | .dict _ => .error .keyError
  | _ => .error .other

/-- `_ce_anomaly_to_model`. -/
def ceAnomalyToModel (entry : AnomalyEntry) : Except PyError (Option (CostAnomaly Datetime)) := do
  let anomalyId ← anomalyIdOf entry
  if anomalyId.truthy then
    let impact ← impactOf entry
    let observedAmount ← spendOf python impact "TotalActualSpend"
    let expectedAmount ← spendOf python impact "TotalExpectedSpend"
    let observedCents ← python.roundCents observedAmount
    let expectedCents ← python.roundCents expectedAmount
    let deviationPct ← deviationOf python impact observedCents expectedCents
    let dimensionKey ← dimensionKeyOf python anomalyId entry
    let start := get entry "AnomalyStartDate"
    let stop := (get entry "AnomalyEndDate").orElse start
    let firstSeen := python.parseCeDate start
    return some {
      signature := python.str anomalyId
      detector := python.str (getD entry "MonitorArn" (.str "ce-monitor"))
      tenantId := none
      dimensionKey := dimensionKey
      observedCostCents := max observedCents 0
      expectedCostCents := max expectedCents 0
      deviationPct := deviationPct
      firstSeen := firstSeen
      lastSeen := if stop.truthy then python.parseCeDate stop else firstSeen
      suppressed := false }
  else return none

/-- The deviation is below the threshold. One that is not finite is not. -/
def BelowThreshold (minDeviationPct : ℚ) (anomaly : CostAnomaly Datetime) : Prop :=
  ∃ value ∈ anomaly.deviationPct, |value| < minDeviationPct

instance (minDeviationPct : ℚ) (anomaly : CostAnomaly Datetime) :
    Decidable (BelowThreshold minDeviationPct anomaly) :=
  inferInstanceAs (Decidable (∃ value ∈ anomaly.deviationPct, |value| < minDeviationPct))

/-- A round of the loop. -/
def detected (minDeviationPct : ℚ) (entry : AnomalyEntry) :
    Except PyError (Option (CostAnomaly Datetime)) := do
  let anomaly ← ceAnomalyToModel python entry
  return anomaly.filter fun anomaly => ¬ BelowThreshold minDeviationPct anomaly

/-- `detect_from_cost_explorer` on the anomalies that Cost Explorer returns. -/
def detectFromCostExplorer (minDeviationPct : ℚ) (raw : List AnomalyEntry) :
    Except PyError (List (CostAnomaly Datetime)) :=
  SkippingLoop.collect (detected python minDeviationPct) raw

end Mapping

end Panakoes.CostApi
