import Mathlib.Data.Rat.Floor
import Panakoes.AuthClient.Validator

/-! # Step-up routes

The routes of the dangerous operations ask for the claim `mfa_step_up_at`. No token of the
auth service carries it: a step-up token says `step_up` instead. So no token opens them.
-/

namespace Panakoes.AdminApi

open Auth AuthClient

/-- An `HTTPException`. -/
structure HttpError where
  statusCode : ℕ
  detail : String
  deriving DecidableEq

/-- `DEFAULT_STEP_UP_MAX_AGE_SECONDS`. -/
def defaultStepUpMaxAgeSeconds : ℤ := 300

/-- `step_up_max_age_seconds`, of the integer in `STEP_UP_MAX_AGE_SECONDS`, if it is one. -/
def stepUpMaxAgeSeconds : Option ℤ → ℤ
  | none => defaultStepUpMaxAgeSeconds
  | some parsed => if parsed ≤ 0 then defaultStepUpMaxAgeSeconds else parsed

/-- What the routes are configured with: the issuer and the audience of the validator, and the
value of `STEP_UP_MAX_AGE_SECONDS`. -/
structure GateSettings where
  issuer : String
  audience : String
  stepUpMaxAge : Option ℤ

/-- `get_jwt_claims`, of a request that bears the token. -/
def getJwtClaims (libraries : Libraries) (settings : GateSettings) (now : ℚ) (token : Payload) :
    Except HttpError AuthClient.JwtClaims :=
  match libraries.validate token settings.issuer settings.audience now with
  | some claims => .ok claims
  | none => .error ⟨401, "invalid token"⟩

/-- `require_admin`. -/
def requireAdmin (claims : AuthClient.JwtClaims) : Except HttpError AuthClient.JwtClaims :=
  if claims.role = some "admin" then .ok claims else .error ⟨403, "admin role required"⟩

/-- The step-up gate of `require_admin_with_step_up`. -/
def checkStepUp (settings : GateSettings) (now : ℚ) (claims : AuthClient.JwtClaims) :
    Except HttpError AuthClient.JwtClaims :=
  match claims.mfaStepUpAt with
  | none => .error ⟨403, "step-up MFA required"⟩
  | some steppedUpAt =>
      if stepUpMaxAgeSeconds settings.stepUpMaxAge < ⌊now⌋ - steppedUpAt then
        .error ⟨403, "step-up MFA required (claim too old)"⟩
      else .ok claims

/-- `require_admin_with_step_up`, with what it depends on. -/
def requireAdminWithStepUp (libraries : Libraries) (settings : GateSettings) (now : ℚ)
    (token : Payload) : Except HttpError AuthClient.JwtClaims := do
  let claims ← getJwtClaims libraries settings now token
  let claims ← requireAdmin claims
  checkStepUp settings now claims

/-- The token is accepted. -/
def Accepts (libraries : Libraries) (settings : GateSettings) (now : ℚ) (token : Payload) : Prop :=
  ∃ claims, requireAdminWithStepUp libraries settings now token = .ok claims

/-- The claims of a step-up token of the user. -/
def stepUpClaims (user : Auth.JwtClaims) : StepUpClaims := ⟨user.sub, user.email, user.role⟩

/-- The step-up token of the user opens the routes, and the access token does not. -/
structure StepUpOpens (libraries : Libraries) (settings : GateSettings) (config : JwtConfig)
    (user : Auth.JwtClaims) (dateNow : ℕ) (now : ℚ) : Prop where
  stepUp : Accepts libraries settings now (signStepUpToken (stepUpClaims user) config dateNow)
  plain : ¬ Accepts libraries settings now (signJwt user config dateNow)

variable {libraries : Libraries} {settings : GateSettings} {now : ℚ} {token : Payload}
  {claims : AuthClient.JwtClaims}

/-- A claim that a token does not carry is `None`. -/
theorem mfaStepUpAt_modelValidate (valid : libraries.modelValidate token = some claims)
    (missing : token.lookup "mfa_step_up_at" = none) : claims.mfaStepUpAt = none := by
  have absent : Libraries.optional libraries.int token "mfa_step_up_at" = some none :=
    Libraries.optional_absent missing
  unfold Libraries.modelValidate at valid
  simp only [absent, Option.bind_eq_bind, Option.bind_eq_some_iff, Option.pure_def,
    Option.some.injEq] at valid
  obtain ⟨_, -, _, -, _, -, _, -, _, -, _, -, _, -, _, -, mfaStepUpAt, rfl, rfl⟩ := valid
  rfl

theorem requireAdmin_admin (admin : claims.role = some "admin") :
    requireAdmin claims = .ok claims := if_pos admin

/-- An admin whose token lacks the claim is asked for a second factor. -/
theorem checkStepUp_missing (missing : claims.mfaStepUpAt = none) :
    checkStepUp settings now claims = .error ⟨403, "step-up MFA required"⟩ := by
  unfold checkStepUp
  rw [missing]

/-- A valid token of an admin that lacks the claim. -/
theorem requireAdminWithStepUp_missing
    (valid : libraries.validate token settings.issuer settings.audience now = some claims)
    (admin : claims.role = some "admin") (missing : claims.mfaStepUpAt = none) :
    requireAdminWithStepUp libraries settings now token =
      .error ⟨403, "step-up MFA required"⟩ := by
  unfold requireAdminWithStepUp getJwtClaims
  rw [valid]
  change (requireAdmin claims).bind (checkStepUp settings now) = _
  rw [requireAdmin_admin admin]
  exact checkStepUp_missing missing

/-- A token without the claim is refused. -/
theorem not_accepts (missing : token.lookup "mfa_step_up_at" = none) :
    ¬ Accepts libraries settings now token := by
  rintro ⟨accepted, opened⟩
  unfold requireAdminWithStepUp getJwtClaims at opened
  split at opened
  · rename_i claims valid
    obtain ⟨decoded, same, valid⟩ := Option.bind_eq_some_iff.mp valid
    cases libraries.decode_payload _ _ _ _ _ same
    have shut : checkStepUp settings now claims = .error _ :=
      checkStepUp_missing (mfaStepUpAt_modelValidate valid missing)
    change (requireAdmin claims).bind (checkStepUp settings now) = .ok accepted at opened
    unfold requireAdmin at opened
    split at opened
    · change checkStepUp settings now claims = .ok accepted at opened
      rw [shut] at opened
      cases opened
    · cases opened
  · cases opened

/-- No token of the auth service carries the claim. -/
theorem signStepUpToken_missing (claims : StepUpClaims) (config : JwtConfig) (dateNow : ℕ) :
    (signStepUpToken claims config dateNow).lookup "mfa_step_up_at" = none := by
  simp [signStepUpToken, List.lookup_cons]

theorem signJwt_missing (user : Auth.JwtClaims) (config : JwtConfig) (dateNow : ℕ) :
    (signJwt user config dateNow).lookup "mfa_step_up_at" = none := by
  simp [signJwt, List.lookup_cons]

/-- An access token does not open the routes. -/
theorem signJwt_refused (user : Auth.JwtClaims) (config : JwtConfig) (dateNow : ℕ) :
    ¬ Accepts libraries settings now (signJwt user config dateNow) :=
  not_accepts (signJwt_missing user config dateNow)

/-- A step-up token is in force within its lifetime, where the auth service and the routes
agree on the issuer and the audience. -/
theorem signStepUpToken_inForce {claims : StepUpClaims} {config : JwtConfig} {dateNow : ℕ}
    (issued : (epochSeconds dateNow : ℚ) ≤ now)
    (unexpired : now < (epochSeconds dateNow + stepUpExpiresInSeconds : ℤ)) :
    InForce (signStepUpToken claims config dateNow) config.issuer config.audience now where
  issuer := by simp [signStepUpToken, List.lookup_cons]
  audience := by simp [signStepUpToken, List.lookup_cons]
  issued := ⟨_, by simp [signStepUpToken, List.lookup_cons], issued⟩
  unexpired := ⟨_, by simp [signStepUpToken, List.lookup_cons], unexpired⟩
  subject := ⟨_, by simp [signStepUpToken, List.lookup_cons]; rfl⟩
  identifier := by simp [signStepUpToken, List.lookup_cons]
  unbounded := by simp [signStepUpToken, List.lookup_cons]

/-- The claims of a step-up token. -/
theorem modelValidate_signStepUpToken {claims : StepUpClaims} {config : JwtConfig} {dateNow : ℕ}
    (subject : libraries.strip claims.sub ≠ "") (issuer : libraries.strip config.issuer ≠ "")
    (audience : libraries.strip config.audience ≠ "") :
    libraries.modelValidate (signStepUpToken claims config dateNow) =
      some ⟨libraries.strip claims.sub, libraries.strip config.issuer,
        libraries.strip config.audience, epochSeconds dateNow,
        epochSeconds dateNow + stepUpExpiresInSeconds, none, [],
        some (libraries.strip claims.role.text), none⟩ := by
  have sub : libraries.required (signStepUpToken claims config dateNow) "sub" = some _ :=
    Libraries.required_str (by simp [signStepUpToken, List.lookup_cons]) subject
  have iss : libraries.required (signStepUpToken claims config dateNow) "iss" = some _ :=
    Libraries.required_str (by simp [signStepUpToken, List.lookup_cons]) issuer
  have aud : libraries.required (signStepUpToken claims config dateNow) "aud" = some _ :=
    Libraries.required_str (by simp [signStepUpToken, List.lookup_cons]) audience
  have iat : ((signStepUpToken claims config dateNow).lookup "iat").bind libraries.int =
      some (epochSeconds dateNow) :=
    Libraries.int_of_held (by simp [signStepUpToken, List.lookup_cons])
  have exp : ((signStepUpToken claims config dateNow).lookup "exp").bind libraries.int =
      some (epochSeconds dateNow + stepUpExpiresInSeconds) :=
    Libraries.int_of_held (by simp [signStepUpToken, List.lookup_cons])
  have jti : Libraries.optional libraries.text (signStepUpToken claims config dateNow) "jti" =
      some none :=
    Libraries.optional_absent (by simp [signStepUpToken, List.lookup_cons])
  have scopes : libraries.scopes (signStepUpToken claims config dateNow) = some [] := by
    simp [Libraries.scopes, signStepUpToken, List.lookup_cons]
  have role : Libraries.optional libraries.text (signStepUpToken claims config dateNow) "role" =
      some (some (libraries.strip claims.role.text)) :=
    Libraries.optional_str (by simp [signStepUpToken, List.lookup_cons])
  have steppedUp : Libraries.optional libraries.int (signStepUpToken claims config dateNow)
      "mfa_step_up_at" = some none :=
    Libraries.optional_absent (signStepUpToken_missing claims config dateNow)
  simp only [Libraries.modelValidate, sub, iss, aud, iat, exp, jti, scopes, role, steppedUp]
  rfl

/-- Within its lifetime the step-up token of an admin is a valid token, and the routes ask for
the second factor that it stands for. -/
theorem stepUp_answer {user : Auth.JwtClaims} {config : JwtConfig} {dateNow : ℕ}
    (issued : (epochSeconds dateNow : ℚ) ≤ now)
    (unexpired : now < (epochSeconds dateNow + stepUpExpiresInSeconds : ℤ))
    (admin : user.role = .admin) (stripped : libraries.strip "admin" = "admin")
    (subject : libraries.strip user.sub ≠ "") (issuer : libraries.strip config.issuer ≠ "")
    (audience : libraries.strip config.audience ≠ "") :
    requireAdminWithStepUp libraries ⟨config.issuer, config.audience, settings.stepUpMaxAge⟩ now
        (signStepUpToken (stepUpClaims user) config dateNow) =
      .error ⟨403, "step-up MFA required"⟩ := by
  have inForce : InForce (signStepUpToken (stepUpClaims user) config dateNow) config.issuer
      config.audience now := signStepUpToken_inForce issued unexpired
  have decoded := libraries.decode_inForce _ _ _ _ inForce
  have validated := Option.bind_eq_some_iff.mpr
    ⟨_, decoded, modelValidate_signStepUpToken subject issuer audience⟩
  refine requireAdminWithStepUp_missing validated ?_ rfl
  change some (libraries.strip user.role.text) = some "admin"
  rw [admin]
  exact congrArg some stripped

/-- **Step-up tokens.** For every user, every configuration and every instant, it is not so
that the step-up token opens the routes and the access token does not: the step-up token is
refused. -/
theorem stepUp_never_opens (libraries : Libraries) (settings : GateSettings) (config : JwtConfig)
    (user : Auth.JwtClaims) (dateNow : ℕ) (now : ℚ) :
    ¬ StepUpOpens libraries settings config user dateNow now :=
  fun opens => not_accepts (signStepUpToken_missing _ config dateNow) opens.stepUp

/-! ## One admin -/

/-- Libraries that decode every token and leave strings as they are. -/
def sampleLibraries : Libraries where
  decode := fun payload _ _ _ => some payload
  decode_payload := fun _ _ _ _ _ same => (Option.some.inj same).symm
  decode_inForce := fun _ _ _ _ _ => rfl
  int := fun value => value.int?
  int_int := fun _ => rfl
  strip := fun text => text

/-- The step-up token of an admin is refused in the instant in which it is issued. -/
theorem stepUp_refused :
    ¬ ∀ (libraries : Libraries) (settings : GateSettings) (config : JwtConfig)
      (user : Auth.JwtClaims) (dateNow : ℕ) (now : ℚ),
      settings.issuer = config.issuer → settings.audience = config.audience →
        user.role = .admin → (epochSeconds dateNow : ℚ) ≤ now →
          now < (epochSeconds dateNow + stepUpExpiresInSeconds : ℤ) →
            StepUpOpens libraries settings config user dateNow now := by
  intro always
  have opens := always sampleLibraries ⟨"panakoes", "panakoes", none⟩ ⟨"panakoes", "panakoes", 900⟩
    ⟨"u", "mail", .admin, "s", none⟩ 0 0 rfl rfl rfl (by simp [epochSeconds])
    (by simp [epochSeconds, stepUpExpiresInSeconds])
  exact not_accepts (signStepUpToken_missing _ _ _) opens.stepUp

end Panakoes.AdminApi
