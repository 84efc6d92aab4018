import Mathlib.Data.List.Sort
import Panakoes.Auth.Jwt

/-! # Verification in the auth service

A signed token has a header, a payload and a signature; the signature is the key under which
it verifies. The auth service signs either with its secret or with its KMS key, whose `kid` is
in the header, and `verifyJwt` verifies an access token with the same configuration. What is
used of `jose` is a structure.
-/

namespace Panakoes.Auth

/-- `AUTH_JWT_ALGORITHM`. -/
inductive Algorithm where
  | hs256
  | rs256
  deriving DecidableEq

/-- What a signature is made with. -/
inductive Key where
  | secret (bytes : String)
  | rsa (key : String)
  deriving DecidableEq

/-- A signed token. -/
structure Token where
  algorithm : Algorithm
  kid : Option String
  payload : Payload
  key : Key

/-- `KmsSigner`: the key and its `kid`. -/
structure KmsSigner where
  kid : String
  key : String

/-- What tokens are signed with: the secret, or the signer that the server wires for RS256. -/
inductive Signing where
  | hs256 (secret : String)
  | rs256 (kmsSigner : KmsSigner)

/-- `signRs256Compact`, or `SignJWT` for HS256. -/
def Signing.sign : Signing → Payload → Token
  | .hs256 secret, payload => ⟨.hs256, none, payload, .secret secret⟩
  | .rs256 kmsSigner, payload => ⟨.rs256, some kmsSigner.kid, payload, .rsa kmsSigner.key⟩

/-- `resolveVerificationKey`. -/
def Signing.resolveVerificationKey : Signing → Key × Algorithm
  | .hs256 secret => (.secret secret, .hs256)
  | .rs256 kmsSigner => (.rsa kmsSigner.key, .rs256)

/-! ## `jose` -/

/-- The errors of `jose` that are told apart. -/
inductive JoseError where
  | jwtExpired
  | signatureVerificationFailed
  | claimValidationFailed (claim : String)
  | other

/-- The registered claims have the types they should have, and name the issuer and the
audience. -/
structure Registered (payload : Payload) (issuer audience : String) (exp : ℤ) : Prop where
  issuer : payload.lookup "iss" = some (.str issuer)
  audience : payload.lookup "aud" = some (.str audience)
  issued : ∃ iat : ℤ, payload.lookup "iat" = some (.int iat)
  expires : payload.lookup "exp" = some (.int exp)
  unbounded : payload.lookup "nbf" = none

/-- `jose`. `validate` is what `jwtVerify` does with the claims of a token whose signature
holds: it returns the payload, or says that it is out of time. -/
structure Jose where
  validate : Payload → String → String → ℕ → Except JoseError Payload
  validate_payload : ∀ payload issuer audience dateNow validated,
    validate payload issuer audience dateNow = .ok validated → validated = payload
  validate_unexpired : ∀ payload issuer audience dateNow exp,
    Registered payload issuer audience exp → epochSeconds dateNow < exp →
      validate payload issuer audience dateNow = .ok payload
  validate_expired : ∀ payload issuer audience dateNow exp,
    Registered payload issuer audience exp → exp ≤ epochSeconds dateNow →
      validate payload issuer audience dateNow = .error .jwtExpired

/-- `jwtVerify`. -/
def Jose.jwtVerify (jose : Jose) (token : Token) (key : Key) (algorithm : Algorithm)
    (issuer audience : String) (dateNow : ℕ) : Except JoseError Payload :=
  if token.algorithm ≠ algorithm then .error .other
  else if token.key ≠ key then .error .signatureVerificationFailed
  else jose.validate token.payload issuer audience dateNow

/-! ## `verifyJwt` -/

/-- `JwtVerifyError`. -/
inductive JwtVerifyError where
  | expired
  | invalidSignature
  | claimMismatch (reason : String)
  | malformed

/-- `VerifiedJwt`. -/
structure VerifiedJwt where
  sub : String
  email : String
  role : UserRole
  jti : String
  plan : Plan
  iat : PyJson
  exp : PyJson

/-- `typeof value === "number"`. -/
def isNumber : PyJson → Bool
  | .int _ | .float _ => true
  | _ => false

/-- The role that the value names, if `isUserRole(value)`. -/
def userRole? : PyJson → Option UserRole
  | .str value => [UserRole.user, .admin].find? (·.text = value)
  | _ => none

/-- The plan that the value names, if `isPlan(value)`. -/
def plan? : PyJson → Option Plan
  | .str value => [Plan.free, .pro, .team].find? (·.text = value)
  | _ => none

/-- The kind of an error that `jwtVerify` throws. -/
def JoseError.verifyError : JoseError → JwtVerifyError
  | .jwtExpired => .expired
  | .signatureVerificationFailed => .invalidSignature
  | .claimValidationFailed claim => .claimMismatch (if claim = "" then "unknown" else claim)
  | .other => .malformed

/-- The claims of an access token. A claim that is `undefined` has no type that is asked for. -/
def readAccess (payload : Payload) : Except JwtVerifyError VerifiedJwt :=
  match payload.lookup "sub", payload.lookup "email", payload.lookup "jti", payload.lookup "iat",
    payload.lookup "exp" with
  | some (.str sub), some (.str email), some (.str jti), some iat, some exp =>
      if isNumber iat ∧ isNumber exp then
        match (payload.lookup "role").bind userRole? with
        | none => .error (.claimMismatch "invalid role")
        | some role =>
            .ok ⟨sub, email, role, jti, ((payload.lookup "plan").bind plan?).getD .free, iat, exp⟩
      else .error (.claimMismatch "missing required claim")
  | _, _, _, _, _ => .error (.claimMismatch "missing required claim")

/-- `verifyJwt`. -/
def verifyJwt (jose : Jose) (signing : Signing) (config : JwtConfig) (token : Token)
    (dateNow : ℕ) : Except JwtVerifyError VerifiedJwt :=
  let (key, algorithm) := signing.resolveVerificationKey
  match jose.jwtVerify token key algorithm config.issuer config.audience dateNow with
  | .error thrown => .error thrown.verifyError
  | .ok payload => readAccess payload

/-- A token that names no session is no access token. -/
theorem readAccess_of_missing {payload : Payload} (missing : payload.lookup "jti" = none) :
    readAccess payload = .error (.claimMismatch "missing required claim") := by
  unfold readAccess
  rw [missing]
  split
  · rename_i held _ _
    cases held
  · rfl

/-! ## Tokens of the auth service -/

section Minted

variable {jose : Jose} {signing : Signing} {config : JwtConfig} {payload : Payload}
  {dateNow : ℕ}

/-- The service verifies the signatures that it makes. -/
theorem verifyJwt_sign :
    verifyJwt jose signing config (signing.sign payload) dateNow =
      match jose.validate payload config.issuer config.audience dateNow with
      | .error thrown => .error thrown.verifyError
      | .ok payload => readAccess payload := by
  cases signing <;> simp [verifyJwt, Signing.sign, Signing.resolveVerificationKey, Jose.jwtVerify]

theorem registered_signJwt (claims : JwtClaims) (config : JwtConfig) (minted : ℕ) :
    Registered (signJwt claims config minted) config.issuer config.audience
      (epochSeconds minted + config.expiresInSeconds) where
  issuer := by simp [signJwt, List.lookup_cons]
  audience := by simp [signJwt, List.lookup_cons]
  issued := ⟨_, by simp [signJwt, List.lookup_cons]; rfl⟩
  expires := by simp [signJwt, List.lookup_cons]
  unbounded := by simp [signJwt, List.lookup_cons]

theorem userRole_text (role : UserRole) : userRole? (.str role.text) = some role := by
  cases role <;> rfl

theorem plan_text (plan : Plan) : plan? (.str plan.text) = some plan := by
  cases plan <;> rfl

/-- The claims of an access token are those that were signed. -/
theorem readAccess_signJwt (claims : JwtClaims) (config : JwtConfig) (minted : ℕ) :
    readAccess (signJwt claims config minted) =
      .ok ⟨claims.sub, claims.email, claims.role, claims.jti, claims.plan.getD .free,
        .int (epochSeconds minted), .int (epochSeconds minted + config.expiresInSeconds)⟩ := by
  have role : ((signJwt claims config minted).lookup "role").bind userRole? =
      some claims.role := by
    simp [signJwt, List.lookup_cons, userRole_text]
  have plan : ((signJwt claims config minted).lookup "plan").bind plan? =
      some (claims.plan.getD .free) := by
    simp [signJwt, List.lookup_cons, plan_text]
  unfold readAccess
  rw [role, plan]
  rfl

/-- An access token is verified until it expires. -/
theorem verifyJwt_signJwt_iff (jose : Jose) (signing : Signing) (config : JwtConfig)
    (dateNow : ℕ) (claims : JwtClaims) (minted : ℕ) :
    (∃ verified, verifyJwt jose signing config (signing.sign (signJwt claims config minted))
        dateNow = .ok verified) ↔
      epochSeconds dateNow < epochSeconds minted + config.expiresInSeconds := by
  rw [verifyJwt_sign]
  have registered := registered_signJwt claims config minted
  constructor
  · rintro ⟨verified, accepted⟩
    by_contra expired
    rw [jose.validate_expired _ _ _ _ _ registered (Int.not_lt.mp expired)] at accepted
    cases accepted
  · intro unexpired
    rw [jose.validate_unexpired _ _ _ _ _ registered unexpired]
    exact ⟨_, readAccess_signJwt claims config minted⟩

/-- A step-up token names no session, and is never verified as an access token. -/
theorem verifyJwt_signStepUpToken (claims : StepUpClaims) (minted : ℕ) (verified : VerifiedJwt) :
    verifyJwt jose signing config (signing.sign (signStepUpToken claims config minted)) dateNow ≠
      .ok verified := by
  rw [verifyJwt_sign]
  intro accepted
  split at accepted
  · cases accepted
  · rename_i validated same
    cases jose.validate_payload _ _ _ _ _ same
    have session : (signStepUpToken claims config minted).lookup "jti" = none := by
      simp [signStepUpToken, List.lookup_cons]
    rw [readAccess_of_missing session] at accepted
    cases accepted

end Minted

end Panakoes.Auth

/-! ## Signing in

The sign-in route checks the credentials with Better-Auth, finds the session that it made and
the role of the user, and signs an access token for them.
-/

namespace Panakoes.Auth

/-- A row of the session table. -/
structure SessionRow where
  id : String
  userId : String
  createdAt : ℤ

/-- The tables that the route reads: the sessions, and the role of each user. -/
structure Database where
  sessions : List SessionRow
  roles : List (String × UserRole)

/-- The user that Better-Auth returns. -/
structure AuthUser where
  id : String
  email : String

/-- `latestSessionForUser`. -/
def latestSessionForUser (db : Database) (userId : String) : Option SessionRow :=
  ((db.sessions.filter (·.userId = userId)).insertionSort
    fun first second => second.createdAt ≤ first.createdAt).head?

/-- `roleForUser`. -/
def roleForUser (db : Database) (userId : String) : UserRole :=
  (db.roles.lookup userId).getD .user

/-- The body of a successful answer. -/
structure SignedIn where
  token : Token
  user : AuthUser
  role : UserRole

/-- An answer that is an error: its status and its `error`. -/
structure SignInError where
  status : ℕ
  error : String
  deriving DecidableEq

/-- `POST /sign-in`. `parsed` are the email address and the password of a body that the schema
admits, `signInEmail` is Better-Auth's, or `none` where it throws, and `db` is what the tables
hold once it has returned. -/
def signIn (signInEmail : String → String → Option AuthUser) (db : Database) (signing : Signing)
    (config : JwtConfig) (dateNow : ℕ) (parsed : Option (String × String)) :
    Except SignInError SignedIn :=
  match parsed with
  | none => .error ⟨400, "invalid_request"⟩
  | some (email, password) =>
      match signInEmail email password with
      | none => .error ⟨401, "invalid_credentials"⟩
      | some user =>
          match latestSessionForUser db user.id with
          | none => .error ⟨500, "session_not_found"⟩
          | some sessionRow =>
              let role := roleForUser db user.id
              -- the claims have an optional plan; the route leaves it out
              let claims : JwtClaims := ⟨user.id, user.email, role, sessionRow.id, none⟩
              .ok ⟨signing.sign (signJwt claims config dateNow), user, role⟩

/-- The token of a user who signs in is bound to a session of the user. -/
theorem signIn_eq_ok {signInEmail : String → String → Option AuthUser} {db : Database}
    {signing : Signing} {config : JwtConfig} {dateNow : ℕ} {parsed : Option (String × String)}
    {answer : SignedIn}
    (signedIn : signIn signInEmail db signing config dateNow parsed = .ok answer) :
    ∃ sessionRow, latestSessionForUser db answer.user.id = some sessionRow ∧
      answer.token = signing.sign (signJwt
        ⟨answer.user.id, answer.user.email, answer.role, sessionRow.id, none⟩ config dateNow) := by
  unfold signIn at signedIn
  split at signedIn
  · cases signedIn
  · split at signedIn
    · cases signedIn
    · split at signedIn
      · cases signedIn
      · rename_i sessionRow found
        cases signedIn
        exact ⟨sessionRow, found, rfl⟩

end Panakoes.Auth
