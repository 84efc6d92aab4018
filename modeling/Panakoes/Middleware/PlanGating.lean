import Panakoes.Auth.Verify
import Panakoes.AuthClient.JwksValidator
import Panakoes.Billing.SubscriptionStore

/-! # Plan gating

`require_plan` reads the plan of the principal that the token dependency has put on the request.
A principal is a dictionary or an object; the claims that a token is validated into are an
object, and have no plan.
-/

namespace Panakoes.Middleware

open Billing (Plan SubscriptionTable getPlan grantsAccess)

/-- What is on `request.state.user`. -/
inductive Principal where
  | dict (entries : List (String × PyJson))
  | claims (claims : AuthClient.JwtClaims)

/-- The fields of the claims, as attributes. -/
def attributes (claims : AuthClient.JwtClaims) : List (String × PyJson) :=
  [("sub", .str claims.sub), ("iss", .str claims.iss), ("aud", .str claims.aud),
    ("iat", .int claims.iat), ("exp", .int claims.exp),
    ("jti", claims.jti.elim .none .str), ("scopes", .list (claims.scopes.map .str)),
    ("role", claims.role.elim .none .str), ("mfa_step_up_at", claims.mfaStepUpAt.elim .none .int)]

/-- `_coerce_plan`. -/
def coercePlan : PyJson → Plan
  | .str value => if value = "team" then .team else if value = "pro" then .pro else .free
  | _ => .free

/-- An `HTTPException`. The plans of a 402 are in its detail. -/
inductive PlanError where
  | unauthorized (detail : String)
  | paymentRequired (detail : String) (requiredPlan currentPlan : Plan)
  deriving DecidableEq

/-- `_extract_plan_from_request`. -/
def extractPlanFromRequest : Option Principal → Except PlanError Plan
  | none => .error (.unauthorized "authentication required")
  | some (.dict entries) => .ok (coercePlan (PyJson.get entries "plan"))
  | some (.claims claims) => .ok (coercePlan (PyJson.get (attributes claims) "plan"))

/-- `require_plan`. -/
def requirePlan (required : Plan) (user : Option Principal) : Except PlanError Plan := do
  let current ← extractPlanFromRequest user
  if current.rank < required.rank then
    .error (.paymentRequired "plan_required" required current)
  else return current

/-- The gate lets a principal pass whose plan is at least the required one. -/
theorem requirePlan_eq_ok_iff {required plan : Plan} {user : Option Principal} :
    requirePlan required user = .ok plan ↔
      extractPlanFromRequest user = .ok plan ∧ required ≤ plan := by
  unfold requirePlan
  cases extractPlanFromRequest user with
  | error error =>
      constructor
      · intro same
        cases same
      · rintro ⟨same, -⟩
        cases same
  | ok current =>
      change (if current.rank < required.rank then _ else Except.ok current) = _ ↔ _
      constructor
      · intro passed
        split at passed
        · cases passed
        · rename_i enough
          cases passed
          exact ⟨rfl, not_lt.mp enough⟩
      · rintro ⟨same, enough⟩
        cases same
        exact if_neg (not_lt.mpr enough)

/-- The claims of a token have no plan, so the gate takes them for free. -/
theorem extractPlanFromRequest_claims (claims : AuthClient.JwtClaims) :
    extractPlanFromRequest (some (.claims claims)) = .ok .free := by
  simp [extractPlanFromRequest, attributes, PyJson.get, PyJson.getD, List.lookup_cons, coercePlan]

/-- A paid plan is asked of every user who comes with a token. -/
theorem requirePlan_claims {required : Plan} (paid : required ≠ .free)
    (claims : AuthClient.JwtClaims) :
    requirePlan required (some (.claims claims)) =
      .error (.paymentRequired "plan_required" required .free) := by
  unfold requirePlan
  rw [extractPlanFromRequest_claims]
  exact if_pos (bot_lt_iff_ne_bot.mpr paid)

/-! ## From the subscriptions table to the gate -/

/-- What a client and the auth service are set up with. -/
structure Deployment where
  signInEmail : String → String → Option Auth.AuthUser
  signing : Auth.Signing
  config : Auth.JwtConfig
  validator : AuthClient.JwksJwtValidator
  libraries : AuthClient.Libraries

/-- A user signs in and later brings the token to a client: the user's id and the plan that
the gate of the client sees, if the sign-in succeeds and the client accepts the token. -/
def planAtGate (deployment : Deployment) (db : Auth.Database) (dateNow : ℕ)
    (parsed : Option (String × String)) (later : ℚ) : Option (String × Except PlanError Plan) :=
  match Auth.signIn deployment.signInEmail db deployment.signing deployment.config dateNow parsed
  with
  | .error _ => none
  | .ok answer =>
      (deployment.validator.validate deployment.libraries answer.token later).map fun claims =>
        (answer.user.id, extractPlanFromRequest (some (.claims claims)))

/-- No row of the tenant has access to a paid plan. -/
def Unpaid (table : SubscriptionTable) (tenantId : String) : Prop :=
  ∀ subscriptionId row, table.lookup (tenantId, subscriptionId) = some row →
    grantsAccess row.status → row.plan = .free

/-- A tenant is on the free plan when no row has access to a paid one. -/
theorem getPlan_eq_free_iff (table : SubscriptionTable) (tenantId : String) :
    getPlan table tenantId = .free ↔ Unpaid table tenantId := by
  constructor
  · intro free subscriptionId row held access
    have entitled : row.plan ≤ getPlan table tenantId := by
      refine Billing.le_getPlan_iff.mpr (Or.inr ⟨subscriptionId, row, held, ?_⟩)
      rw [Billing.SubscriptionRow.entitlement, Billing.entitled, if_pos access]
    rw [free] at entitled
    exact le_bot_iff.mp entitled
  · intro unpaid
    rcases Billing.le_getPlan_iff.mp (le_refl (getPlan table tenantId)) with
      free | ⟨subscriptionId, row, held, reaches⟩
    · exact free
    · refine le_bot_iff.mp (reaches.trans ?_)
      unfold Billing.SubscriptionRow.entitlement Billing.entitled
      split
      · rename_i access
        exact (unpaid subscriptionId row held access).le
      · exact le_rfl

/-- The gate takes every user who comes with a token for free. -/
theorem snd_planAtGate {deployment : Deployment} {db : Auth.Database} {dateNow : ℕ}
    {parsed : Option (String × String)} {later : ℚ} {userId : String}
    {seen : Except PlanError Plan}
    (reached : planAtGate deployment db dateNow parsed later = some (userId, seen)) :
    seen = .ok .free := by
  unfold planAtGate at reached
  split at reached
  · cases reached
  · obtain ⟨claims, -, same⟩ := Option.map_eq_some_iff.mp reached
    rw [extractPlanFromRequest_claims] at same
    exact (Prod.mk.inj same).2.symm

/-- **The plan that the gate sees for a token issued at sign-in is the plan of the user at
sign-in exactly when no row of the user has access to a paid plan.** -/
theorem planAtGate_eq_getPlan_iff {deployment : Deployment} {db : Auth.Database} {dateNow : ℕ}
    {parsed : Option (String × String)} {later : ℚ} {userId : String}
    {seen : Except PlanError Plan} (table : SubscriptionTable)
    (reached : planAtGate deployment db dateNow parsed later = some (userId, seen)) :
    seen = .ok (getPlan table userId) ↔ Unpaid table userId := by
  rw [snd_planAtGate reached, Except.ok.injEq, eq_comm, getPlan_eq_free_iff]

/-! ## A user with a paid subscription -/

/-- One user, with one session. -/
def sampleDeployment : Deployment where
  signInEmail := fun _ _ => some ⟨"u-1", "user@panakoes.com"⟩
  signing := AuthClient.sampleVerifiers.signing
  config := AuthClient.sampleVerifiers.config
  validator := AuthClient.sampleVerifiers.validator
  libraries := AuthClient.registeredLibraries.toLibraries

/-- The tables of the auth service when that user has signed in. -/
def sampleDatabase : Auth.Database := ⟨[⟨"s-1", "u-1", 1000⟩], [("u-1", .user)]⟩

/-- An active subscription to the plan `pro`. -/
def proTable : SubscriptionTable :=
  AList.insert ("u-1", "sub_1") ⟨.pro, "active", 1, "evt_1", "2026-01-01", none, none, none⟩ ∅

/-- The gate sees that user as it sees all. -/
theorem planAtGate_sample :
    planAtGate sampleDeployment sampleDatabase 1000
        (some ("user@panakoes.com", "correct horse")) 2 = some ("u-1", .ok .free) := by
  have signedIn : Auth.signIn sampleDeployment.signInEmail sampleDatabase sampleDeployment.signing
      sampleDeployment.config 1000 (some ("user@panakoes.com", "correct horse")) =
      .ok ⟨AuthClient.sampleVerifiers.mint (.access ⟨"u-1", "user@panakoes.com", .user, "s-1", none⟩)
        1000, ⟨"u-1", "user@panakoes.com"⟩, .user⟩ := rfl
  have accepted := (AuthClient.Verifiers.clientAccepts_iff AuthClient.sampleVerifiers
    (.access ⟨"u-1", "user@panakoes.com", .user, "s-1", none⟩) 1000 2).mpr
    ⟨AuthClient.knows_sample (by decide), by norm_num [Auth.epochSeconds],
      by norm_num [Auth.epochSeconds, AuthClient.Minted.lifetime, AuthClient.sampleVerifiers]⟩
  obtain ⟨claims, valid⟩ := Option.isSome_iff_exists.mp accepted
  have validated : sampleDeployment.validator.validate sampleDeployment.libraries
      (AuthClient.sampleVerifiers.mint (.access ⟨"u-1", "user@panakoes.com", .user, "s-1", none⟩)
        1000) 2 = some claims := valid
  unfold planAtGate
  rw [signedIn]
  change Option.map _ (sampleDeployment.validator.validate _ _ 2) = _
  rw [validated, Option.map_some, extractPlanFromRequest_claims]

theorem planAtGate_eq_getPlan_iff_proTable :
    planAtGate sampleDeployment sampleDatabase 1000
        (some ("user@panakoes.com", "correct horse")) 2 = some ("u-1", .ok .free) ∧
      ((Except.ok .free : Except PlanError Plan) = .ok (getPlan proTable "u-1") ↔
        Unpaid proTable "u-1") :=
  ⟨planAtGate_sample, planAtGate_eq_getPlan_iff proTable planAtGate_sample⟩

/-- The user pays for `pro` and is taken for free. -/
theorem planAtGate_ne_getPlan :
    ¬ ∀ (deployment : Deployment) (db : Auth.Database) (dateNow : ℕ)
      (parsed : Option (String × String)) (later : ℚ) (userId : String)
      (seen : Except PlanError Plan) (table : SubscriptionTable),
      planAtGate deployment db dateNow parsed later = some (userId, seen) →
        seen = .ok (getPlan table userId) := by
  intro always
  have same := always sampleDeployment sampleDatabase 1000
    (some ("user@panakoes.com", "correct horse")) 2 "u-1" (.ok .free) proTable planAtGate_sample
  have free := (getPlan_eq_free_iff proTable "u-1").mp (Except.ok.inj same).symm "sub_1" _
    (AList.lookup_insert ∅) rfl
  cases free

end Panakoes.Middleware
