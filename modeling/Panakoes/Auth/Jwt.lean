import Panakoes.Foundation.PyJson

/-! # Tokens of the auth service

The payloads that the auth service signs: access tokens, and step-up tokens after a second
factor. A token is its payload here; the signature is taken to work.
-/

namespace Panakoes.Auth

/-- `UserRole`. -/
inductive UserRole where
  | user
  | admin
  deriving DecidableEq

/-- The text of the role. -/
def UserRole.text : UserRole → String
  | .user => "user"
  | .admin => "admin"

/-- `Plan`. -/
inductive Plan where
  | free
  | pro
  | team
  deriving DecidableEq

/-- The text of the plan. -/
def Plan.text : Plan → String
  | .free => "free"
  | .pro => "pro"
  | .team => "team"

/-- The payload of a token. -/
abbrev Payload := List (String × PyJson)

/-- `JwtClaims` of the auth service. -/
structure JwtClaims where
  sub : String
  email : String
  role : UserRole
  jti : String
  plan : Option Plan

/-- `StepUpClaims`. -/
structure StepUpClaims where
  sub : String
  email : String
  role : UserRole

/-- `JwtConfig`, of which the named values are used. -/
structure JwtConfig where
  issuer : String
  audience : String
  expiresInSeconds : ℤ

/-- `STEP_UP_EXPIRES_IN_SECONDS`. -/
def stepUpExpiresInSeconds : ℤ := 300

/-- `Math.floor(Date.now() / 1000)`, of a reading in milliseconds. -/
def epochSeconds (dateNow : ℕ) : ℤ := (dateNow / 1000 : ℕ)

/-- `signJwt`. Both algorithms sign the same payload. -/
def signJwt (claims : JwtClaims) (config : JwtConfig) (dateNow : ℕ) : Payload :=
  [("email", .str claims.email), ("role", .str claims.role.text),
    ("plan", .str (claims.plan.getD .free).text), ("sub", .str claims.sub),
    ("jti", .str claims.jti), ("iss", .str config.issuer), ("aud", .str config.audience),
    ("iat", .int (epochSeconds dateNow)),
    ("exp", .int (epochSeconds dateNow + config.expiresInSeconds))]

/-- `signStepUpToken`. Both algorithms sign the same payload. -/
def signStepUpToken (claims : StepUpClaims) (config : JwtConfig) (dateNow : ℕ) : Payload :=
  [("email", .str claims.email), ("role", .str claims.role.text), ("step_up", .bool true),
    ("sub", .str claims.sub), ("iss", .str config.issuer), ("aud", .str config.audience),
    ("iat", .int (epochSeconds dateNow)),
    ("exp", .int (epochSeconds dateNow + stepUpExpiresInSeconds))]

end Panakoes.Auth
