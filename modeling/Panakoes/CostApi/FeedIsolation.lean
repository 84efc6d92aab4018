import Panakoes.CostApi.AnomalyDetector

/-! # The isolation of the anomaly feed

Which items and which anomalies raise out of their loops, told from their shapes. All others cost no
other item or anomaly.
-/

namespace Panakoes.CostApi

open PyJson (get getD)

variable {Datetime : Type} (python : DetectorPython Datetime)

/-- An amount is a finite number, or reads as one, and so is its product with a hundred. -/
def Spent (impact : List (String × PyJson)) (name : String) (cents : ℤ) : Prop :=
  ∃ amount product, spendOf python impact name = .ok (some amount) ∧
    python.round (amount * 100) = some product ∧ cents = Rounding.halfEven product

/-- The percentage of a deviation is a number, or reads as one; where there is none, the quotient of
the cents is not too large. -/
def Deviates (impact : List (String × PyJson)) (observedCents expectedCents : ℤ) : Prop :=
  match get impact "TotalImpactPercentage" with
  | .none => expectedCents = 0 ∨
      (python.round (((observedCents - expectedCents : ℤ) : ℚ) / expectedCents)).isSome = true
  | value => (python.float value).isOk = true

/-- The root causes are a list or a text, or nothing. -/
def Listed (entry : AnomalyEntry) : Prop :=
  match (getD entry "RootCauses" (.list [])).orElse (.list []) with
  | .list _ | .str _ => True
  | _ => False

/-- The entry has an id, of its own or of its score. -/
def Identified (entry : AnomalyEntry) : Prop :=
  ∃ anomalyId, anomalyIdOf entry = .ok anomalyId ∧ anomalyId.truthy = true

/-- The shape of an anomaly that raises nothing. -/
structure Convertible (entry : AnomalyEntry) : Prop where
  score : (get entry "AnomalyId").truthy = true ∨
    ∃ score, getD entry "AnomalyScore" (.dict []) = .dict score
  impact : Identified entry → ∃ impact observedCents expectedCents,
    (getD entry "Impact" (.dict [])).orElse (.dict []) = .dict impact ∧
      Spent python impact "TotalActualSpend" observedCents ∧
        Spent python impact "TotalExpectedSpend" expectedCents ∧
          Deviates python impact observedCents expectedCents
  causes : Identified entry → Listed entry

variable {python} {entry : AnomalyEntry}

theorem isOk_anomalyIdOf_iff : (anomalyIdOf entry).isOk = true ↔
    (get entry "AnomalyId").truthy = true ∨
      ∃ score, getD entry "AnomalyScore" (.dict []) = .dict score := by
  unfold anomalyIdOf
  split
  · rename_i direct
    exact iff_of_true rfl (Or.inl direct)
  · rename_i absent
    rw [or_iff_right absent]
    split
    · rename_i score nested
      exact iff_of_true rfl ⟨score, nested⟩
    · rename_i other
      apply iff_of_false Bool.false_ne_true
      rintro ⟨score, nested⟩
      exact other score nested

theorem impactOf_eq_ok {impact : List (String × PyJson)} :
    impactOf entry = .ok impact ↔
      (getD entry "Impact" (.dict [])).orElse (.dict []) = .dict impact := by
  unfold impactOf
  split
  · rename_i held nested
    rw [nested, Except.ok.injEq, PyJson.dict.injEq]
  · rename_i other
    apply iff_of_false
    · intro same
      cases same
    · exact other impact

theorem spent_iff {impact : List (String × PyJson)} {name : String} {cents : ℤ} :
    Spent python impact name cents ↔
      ∃ amount, spendOf python impact name = .ok amount ∧ python.roundCents amount = .ok cents := by
  unfold DetectorPython.roundCents
  constructor
  · rintro ⟨amount, product, read, rounds, rfl⟩
    refine ⟨some amount, read, ?_⟩
    rw [Option.bind_some, rounds]
  · rintro ⟨amount, read, rounds⟩
    cases amount with
    | none => cases rounds
    | some amount =>
        rw [Option.bind_some] at rounds
        cases product : python.round (amount * 100) with
        | none =>
            rw [product] at rounds
            cases rounds
        | some value =>
            rw [product] at rounds
            exact ⟨amount, value, read, product, (Except.ok.inj rounds).symm⟩

theorem isOk_deviationOf_iff {impact : List (String × PyJson)} {observedCents expectedCents : ℤ} :
    (deviationOf python impact observedCents expectedCents).isOk = true ↔
      Deviates python impact observedCents expectedCents := by
  unfold deviationOf Deviates
  cases get impact "TotalImpactPercentage" with
  | none =>
      dsimp only
      unfold DetectorPython.localDeviation
      split
      · rename_i zero
        exact iff_of_true rfl (Or.inl zero)
      · rename_i nonzero
        rw [or_iff_right nonzero]
        cases python.round (((observedCents - expectedCents : ℤ) : ℚ) / expectedCents) with
        | none => exact Iff.rfl
        | some ratio => exact Iff.rfl
  | bool _ | int _ | float _ | str _ | list _ | dict _ => exact Iff.rfl

theorem isOk_dimensionKeyOf_iff {anomalyId : PyJson} :
    (dimensionKeyOf python anomalyId entry).isOk = true ↔ Listed entry := by
  unfold dimensionKeyOf Listed
  cases (getD entry "RootCauses" (.list [])).orElse (.list []) with
  | list causes => cases causes <;> exact iff_of_true rfl True.intro
  | str text => exact iff_of_true rfl True.intro
  | none | bool _ | int _ | float _ | dict _ => exact iff_of_false Bool.false_ne_true id

/-- A computation returns when what follows its first value does. -/
theorem isOk_bind_of {α β : Type} {first : Except PyError α} {next : α → Except PyError β} {value : α}
    (returned : first = .ok value) (rest : (next value).isOk = true) :
    (first >>= next).isOk = true := by
  rw [returned]
  exact rest

/-- What an identified anomaly that is mapped has. -/
theorem shape_of_mapped {anomalyId : PyJson} {found : Option (CostAnomaly Datetime)}
    (mapped : ceAnomalyToModel python entry = .ok found) (named : anomalyIdOf entry = .ok anomalyId)
    (truthy : anomalyId.truthy = true) :
    (∃ impact observedCents expectedCents,
      (getD entry "Impact" (.dict [])).orElse (.dict []) = .dict impact ∧
        Spent python impact "TotalActualSpend" observedCents ∧
          Spent python impact "TotalExpectedSpend" expectedCents ∧
            Deviates python impact observedCents expectedCents) ∧ Listed entry := by
  obtain ⟨other, same, rest⟩ := Except.bind_eq_ok.mp mapped
  rw [named] at same
  cases same
  rw [if_pos truthy] at rest
  obtain ⟨impact, held, rest⟩ := Except.bind_eq_ok.mp rest
  obtain ⟨observed, observedRead, rest⟩ := Except.bind_eq_ok.mp rest
  obtain ⟨expected, expectedRead, rest⟩ := Except.bind_eq_ok.mp rest
  obtain ⟨observedCents, observedRounds, rest⟩ := Except.bind_eq_ok.mp rest
  obtain ⟨expectedCents, expectedRounds, rest⟩ := Except.bind_eq_ok.mp rest
  obtain ⟨deviation, deviates, rest⟩ := Except.bind_eq_ok.mp rest
  obtain ⟨label, labelled, -⟩ := Except.bind_eq_ok.mp rest
  have deviationOk : (deviationOf python impact observedCents expectedCents).isOk = true := by
    rw [deviates]
    rfl
  have labelOk : (dimensionKeyOf python anomalyId entry).isOk = true := by
    rw [labelled]
    rfl
  refine ⟨⟨impact, observedCents, expectedCents, impactOf_eq_ok.mp held, ?_, ?_, ?_⟩, ?_⟩
  · exact spent_iff.mpr ⟨observed, observedRead, observedRounds⟩
  · exact spent_iff.mpr ⟨expected, expectedRead, expectedRounds⟩
  · exact isOk_deviationOf_iff.mp deviationOk
  · exact isOk_dimensionKeyOf_iff.mp labelOk

/-- An anomaly of the shape is mapped. -/
theorem Convertible.isOk (convertible : Convertible python entry) :
    (ceAnomalyToModel python entry).isOk = true := by
  obtain ⟨anomalyId, named⟩ := Except.exists_of_isOk (isOk_anomalyIdOf_iff.mpr convertible.score)
  refine isOk_bind_of named ?_
  by_cases truthy : anomalyId.truthy = true
  · have identified : Identified entry := ⟨anomalyId, named, truthy⟩
    obtain ⟨impact, observedCents, expectedCents, held, observed, expected, deviates⟩ :=
      convertible.impact identified
    obtain ⟨observedAmount, observedRead, observedRounds⟩ := spent_iff.mp observed
    obtain ⟨expectedAmount, expectedRead, expectedRounds⟩ := spent_iff.mp expected
    obtain ⟨deviation, deviationRead⟩ :=
      Except.exists_of_isOk (isOk_deviationOf_iff.mpr deviates)
    have labelOk : (dimensionKeyOf python anomalyId entry).isOk = true :=
      isOk_dimensionKeyOf_iff.mpr (convertible.causes identified)
    obtain ⟨label, labelled⟩ := Except.exists_of_isOk labelOk
    rw [if_pos truthy]
    refine isOk_bind_of (impactOf_eq_ok.mpr held) ?_
    refine isOk_bind_of observedRead ?_
    refine isOk_bind_of expectedRead ?_
    refine isOk_bind_of observedRounds ?_
    refine isOk_bind_of expectedRounds ?_
    refine isOk_bind_of deviationRead ?_
    exact isOk_bind_of labelled rfl
  · rw [if_neg truthy]
    rfl

/-- An anomaly raises nothing if and only if it has the shape. -/
theorem isOk_ceAnomalyToModel_iff :
    (ceAnomalyToModel python entry).isOk = true ↔ Convertible python entry := by
  constructor
  · intro returns
    obtain ⟨found, mapped⟩ := Except.exists_of_isOk returns
    obtain ⟨anomalyId, named, -⟩ := Except.bind_eq_ok.mp mapped
    have identified : Identified entry → anomalyId.truthy = true := by
      intro has
      obtain ⟨other, same, truthy⟩ := has
      rw [named] at same
      cases same
      exact truthy
    have score : (anomalyIdOf entry).isOk = true := by
      rw [named]
      rfl
    exact ⟨isOk_anomalyIdOf_iff.mp score,
      fun has => (shape_of_mapped mapped named (identified has)).1,
      fun has => (shape_of_mapped mapped named (identified has)).2⟩
  · exact Convertible.isOk

/-- The loop over the anomalies is isolated if and only if all of them have the shape. -/
theorem detectFromCostExplorer_iff (minDeviationPct : ℚ) (raw : List AnomalyEntry) :
    detectFromCostExplorer python minDeviationPct raw =
        .ok (raw.filterMap (SkippingLoop.converted (detected python minDeviationPct))) ↔
      ∀ entry ∈ raw, Convertible python entry := by
  refine SkippingLoop.isolated_iff.trans (forall₂_congr fun entry _ => ?_)
  rw [← isOk_ceAnomalyToModel_iff]
  exact (Except.isOk_bind_iff fun _ _ => iff_true_intro rfl).trans (and_iff_left trivial)

/-- **The anomaly feed.** The scan returns the active rows that are well formed, and the detector the
well-formed anomalies that reach the threshold, if and only if the rows are readable and the anomalies
have the shape. -/
theorem feed_isolated_iff (hydration : Hydration Datetime) (python : DetectorPython Datetime)
    (items : List DynamoValue.Item) (sizes : List ℕ) (nowEpoch : ℤ) (minDeviationPct : ℚ)
    (raw : List AnomalyEntry) :
    (AlertState.scanActive hydration items sizes nowEpoch =
        .ok (items.filterMap (SkippingLoop.converted (AlertState.activeRow hydration nowEpoch))) ↔
      ∀ item ∈ items, AlertState.Readable hydration item) ∧
    (detectFromCostExplorer python minDeviationPct raw =
        .ok (raw.filterMap (SkippingLoop.converted (detected python minDeviationPct))) ↔
      ∀ entry ∈ raw, Convertible python entry) :=
  ⟨AlertState.scanActive_iff items sizes nowEpoch, detectFromCostExplorer_iff minDeviationPct raw⟩

/-- An anomaly that is stored. -/
def storedAnomaly : CostAnomaly String :=
  ⟨"s1", "ce-monitor", none, "EC2", 200, 100, some 100, "2026-05-01T00:00:00Z",
    "2026-05-01T00:00:00Z", false⟩

/-- Its JSON text. -/
def storedPayload : String :=
  "\x7b\"signature\":\"s1\",\"detector\":\"ce-monitor\",\"tenant_id\":null," ++
    "\"dimension_key\":\"EC2\",\"observed_cost_cents\":200,\"expected_cost_cents\":100," ++
    "\"deviation_pct\":100.0,\"first_seen\":\"2026-05-01T00:00:00Z\"," ++
    "\"last_seen\":\"2026-05-01T00:00:00Z\",\"suppressed\":false\x7d"

/-- The validation of that text. -/
def storedHydration : Hydration String where
  validate payload := if payload = storedPayload then some storedAnomaly else none
  str
    | .str text => text
    | _ => ""

/-- A Python whose floats hold the numbers asked of it. -/
def plainPython : DetectorPython String where
  round := some
  str
    | .str text => text
    | _ => ""
  fromisoformat := some
  now := "2026-05-02T00:00:00Z"

/-- A row whose expiry is a text, and an anomaly whose spend is one. -/
theorem not_feed_isolated :
    (¬ ∀ items sizes nowEpoch, AlertState.scanActive storedHydration items sizes nowEpoch =
        .ok (items.filterMap
          (SkippingLoop.converted (AlertState.activeRow storedHydration nowEpoch)))) ∧
      ¬ ∀ minDeviationPct raw, detectFromCostExplorer plainPython minDeviationPct raw =
        .ok (raw.filterMap (SkippingLoop.converted (detected plainPython minDeviationPct))) := by
  constructor
  · intro isolated
    have valid : (storedHydration.validate storedPayload).isSome = true := by
      unfold storedHydration
      dsimp only
      rw [if_pos (Eq.refl storedPayload)]
      rfl
    have readable := (AlertState.scanActive_iff _ _ _).mp (isolated [[("alert_signature", .str "s1"),
      ("payload", .str storedPayload), ("expires_at", .str "soon")]] [] 0) _
        (List.mem_singleton_self _)
    have returns := readable rfl rfl storedPayload rfl valid
    exact absurd returns (by decide +kernel)
  · intro isolated
    have shape := (detectFromCostExplorer_iff _ _).mp (isolated 20 [[("AnomalyId", .str "a1"),
      ("Impact", .dict [("TotalActualSpend", .str "n/a")])]]) _ (List.mem_singleton_self _)
    obtain ⟨impact, _, _, held, ⟨amount, _, read, -⟩, -⟩ :=
      shape.impact ⟨.str "a1", rfl, rfl⟩
    cases held
    have raises : (spendOf plainPython [("TotalActualSpend", .str "n/a")]
        "TotalActualSpend").isOk = false := by decide +kernel
    rw [read] at raises
    cases raises

end Panakoes.CostApi
