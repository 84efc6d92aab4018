import Panakoes.Auth.SessionBinding

/-! # Step-up by a second factor

The routes under `/mfa`. The bearer of an access token is given a step-up token for a code, checked
against a secret that comes with the request; `/mfa/challenge` answers the bearer of a step-up token.
A bearer may present any token that the service has signed, and any token signed with another key.
-/

namespace Panakoes.Auth.Mfa

open Transition

/-! ## Step-up tokens -/

/-- `VerifiedStepUp`. -/
structure VerifiedStepUp where
  sub : String
  email : String
  role : UserRole
  iat : PyJson
  exp : PyJson

/-- The claims of a step-up token. -/
def readStepUp (payload : Payload) : Except JwtVerifyError VerifiedStepUp :=
  match payload.lookup "sub", payload.lookup "email", payload.lookup "iat", payload.lookup "exp",
    payload.lookup "step_up" with
  | some (.str sub), some (.str email), some iat, some exp, some (.bool true) =>
      if isNumber iat ∧ isNumber exp then
        match (payload.lookup "role").bind userRole? with
        | none => .error (.claimMismatch "invalid role")
        | some role => .ok ⟨sub, email, role, iat, exp⟩
      else .error (.claimMismatch "not a step-up token")
  | _, _, _, _, _ => .error (.claimMismatch "not a step-up token")

/-- `verifyStepUpToken`. -/
def verifyStepUpToken (jose : Jose) (signing : Signing) (config : JwtConfig) (token : Token)
    (dateNow : ℕ) : Except JwtVerifyError VerifiedStepUp :=
  let (key, algorithm) := signing.resolveVerificationKey
  match jose.jwtVerify token key algorithm config.issuer config.audience dateNow with
  | .error thrown => .error thrown.verifyError
  | .ok payload => readStepUp payload

/-! ## One-time passwords -/

/-- `otpauth`, with the digits, the period and the algorithm of the service. `fromBase32` is `none`
where it throws. `validate` is given the code, the window and the time. -/
structure OtpAuth (Secret : Type) where
  base32 : Secret → String
  fromBase32 : String → Option Secret
  toUri : String → String → Secret → String
  validate : Secret → String → ℕ → ℕ → Option ℤ

/-- `MFA_ISSUER`. -/
def mfaIssuer : String := "Panakoes"

/-- `MFA_VERIFY_WINDOW`. -/
def mfaVerifyWindow : ℕ := 1

/-- `EnrollmentOffer`. -/
structure EnrollmentOffer where
  secretKey : String
  qrCodeUri : String

/-- `enrollMfa`, with the secret that is drawn. -/
def enrollMfa {Secret : Type} (otp : OtpAuth Secret) (accountLabel : String) (secret : Secret) :
    EnrollmentOffer :=
  ⟨otp.base32 secret, otp.toUri mfaIssuer accountLabel secret⟩

/-- `reason` of a code that is not taken. -/
inductive MfaReason where
  | invalidCode
  | malformedCode
  | malformedSecret
  deriving DecidableEq

/-- The text of the reason. -/
def MfaReason.text : MfaReason → String
  | .invalidCode => "invalid_code"
  | .malformedCode => "malformed_code"
  | .malformedSecret => "malformed_secret"

/-- `^\d{6}$`. -/
def IsCode (code : String) : Prop := code.toList.length = 6 ∧ code.toList.all Char.isDigit

instance : DecidablePred IsCode := fun _ => inferInstanceAs (Decidable (_ ∧ _))

/-- `verifyMfaCode`. -/
def verifyMfaCode {Secret : Type} (otp : OtpAuth Secret) (code base32Secret : String)
    (dateNow : ℕ) : Except MfaReason Unit :=
  if ¬ IsCode code then .error .malformedCode
  else
    match otp.fromBase32 base32Secret with
    | none => .error .malformedSecret
    | some secret =>
        match otp.validate secret code mfaVerifyWindow dateNow with
        | none => .error .invalidCode
        | some _ => .ok ()

/-! ## The routes -/

/-- What the routes are created with. -/
structure Service (Secret : Type) where
  jose : Jose
  signing : Signing
  config : JwtConfig
  otp : OtpAuth Secret

/-- An answer that is an error. `stepUp` is whether it has the header `WWW-Authenticate: StepUp`. -/
structure Refusal where
  status : ℕ
  error : String
  reason : Option String
  stepUp : Bool

variable {Secret : Type} (service : Service Secret)

/-- The claims of an access token, as the first two routes ask for them. -/
def Service.claims (token : Option Token) (dateNow : ℕ) : Except Refusal VerifiedJwt :=
  match token with
  | none => .error ⟨401, "missing_bearer_token", none, false⟩
  | some token =>
      match verifyJwt service.jose service.signing service.config token dateNow with
      | .error thrown => .error ⟨401, "invalid_token", some thrown.kind, false⟩
      | .ok claims => .ok claims

/-- `POST /mfa/enroll`. -/
def mfaEnroll (token : Option Token) (secret : Secret) (dateNow : ℕ) :
    Except Refusal EnrollmentOffer := do
  let claims ← service.claims token dateNow
  if claims.role ≠ .admin then .error ⟨403, "forbidden", some "admin_role_required", false⟩
  else .ok (enrollMfa service.otp claims.email secret)

/-- `VerifySchema.safeParse`: the code, and the secret. -/
def safeParse : PyJson → Option (String × String)
  | .dict entries =>
      match entries.lookup "code", entries.lookup "secret_key" with
      | some (.str code), some (.str secretKey) =>
          if IsCode code ∧ secretKey ≠ "" then some (code, secretKey) else none
      | _, _ => none
  | _ => none

/-- `POST /mfa/verify`: the step-up token, and `expiresAt` in seconds. -/
def mfaVerify (token : Option Token) (json : PyJson) (dateNow : ℕ) : Except Refusal (Token × ℤ) := do
  let claims ← service.claims token dateNow
  match safeParse json with
  | none => .error ⟨400, "invalid_request", none, false⟩
  | some (code, secretKey) =>
      match verifyMfaCode service.otp code secretKey dateNow with
      | .error reason => .error ⟨401, "invalid_mfa_code", some reason.text, false⟩
      | .ok () =>
          let stepUp := signStepUpToken ⟨claims.sub, claims.email, claims.role⟩ service.config dateNow
          .ok (service.signing.sign stepUp, epochSeconds dateNow + stepUpExpiresInSeconds)

/-- `POST /mfa/challenge`: the user. -/
def mfaChallenge (token : Option Token) (dateNow : ℕ) : Except Refusal StepUpClaims :=
  match token with
  | none => .error ⟨401, "step_up_required", none, true⟩
  | some token =>
      match verifyStepUpToken service.jose service.signing service.config token dateNow with
      | .error thrown => .error ⟨401, "step_up_required", some thrown.kind, true⟩
      | .ok claims => .ok ⟨claims.sub, claims.email, claims.role⟩

/-! ## Bearers -/

/-- What a bearer presents: nothing, an access token or a step-up token of the service by its number,
or a token of someone else. -/
inductive Bearer where
  | missing
  | access (number : ℕ)
  | stepUp (number : ℕ)
  | foreign (token : Token)

/-- A step-up token that `/mfa/verify` has given, with the request it was given for. -/
structure Grant where
  bearer : Bearer
  json : PyJson
  granted : ℕ
  token : Token

/-- The access tokens that have been signed, each with the time, and the step-up tokens. -/
structure State where
  accesses : List (JwtClaims × ℕ)
  grants : List Grant

/-- Who acts next. A request that is refused, an offer and a challenge change nothing. -/
inductive Action where
  /-- An access token is signed. -/
  | sign (claims : JwtClaims) (dateNow : ℕ)
  /-- `POST /mfa/verify`. -/
  | verify (bearer : Bearer) (json : PyJson) (dateNow : ℕ)

/-- The token of a sign-in. -/
def Service.access (signed : JwtClaims × ℕ) : Token :=
  service.signing.sign (signJwt signed.1 service.config signed.2)

/-- The token that is presented, if there is one of that number. Tokens of others are not signed with
the key of the service. -/
def State.present (state : State) : Bearer → Option (Option Token)
  | .missing => some none
  | .access number => state.accesses[number]?.map fun signed => some (service.access signed)
  | .stepUp number => state.grants[number]?.map fun grant => some grant.token
  | .foreign token =>
      if token.key = service.signing.resolveVerificationKey.1 then none else some (some token)

/-- One step. -/
def step (state : State) : Action → Option State
  | .sign claims dateNow => some { state with accesses := state.accesses ++ [(claims, dateNow)] }
  | .verify bearer json dateNow =>
      (state.present service bearer).map fun token =>
        match mfaVerify service token json dateNow with
        | .error _ => state
        | .ok (given, _) => { state with grants := state.grants ++ [⟨bearer, json, dateNow, given⟩] }

/-! ## What a token is taken for -/

section Tokens

variable {jose : Jose} {signing : Signing} {config : JwtConfig} {token : Token} {dateNow : ℕ}

/-- The service reads the step-up tokens that it signs. -/
theorem verifyStepUpToken_sign {payload : Payload} :
    verifyStepUpToken jose signing config (signing.sign payload) dateNow =
      match jose.validate payload config.issuer config.audience dateNow with
      | .error thrown => .error thrown.verifyError
      | .ok payload => readStepUp payload := by
  cases signing with
  | hs256 secret => simp [verifyStepUpToken, Signing.sign, Signing.resolveVerificationKey,
      Jose.jwtVerify]
  | rs256 kmsSigner => simp [verifyStepUpToken, Signing.sign, Signing.resolveVerificationKey,
      Jose.jwtVerify]

/-- A token that is signed with another key does not pass `jwtVerify`. -/
theorem jwtVerify_foreign (foreign : token.key ≠ signing.resolveVerificationKey.1)
    (issuer audience : String) :
    ∃ thrown, jose.jwtVerify token signing.resolveVerificationKey.1
      signing.resolveVerificationKey.2 issuer audience dateNow = .error thrown := by
  unfold Jose.jwtVerify
  by_cases other : token.algorithm ≠ signing.resolveVerificationKey.2
  · exact ⟨_, if_pos other⟩
  · rw [if_neg other, if_pos foreign]
    exact ⟨_, rfl⟩

theorem verifyJwt_foreign (foreign : token.key ≠ signing.resolveVerificationKey.1)
    (verified : VerifiedJwt) : verifyJwt jose signing config token dateNow ≠ .ok verified := by
  obtain ⟨thrown, failed⟩ := jwtVerify_foreign foreign config.issuer config.audience
  intro accepted
  dsimp only [verifyJwt] at accepted
  rw [failed] at accepted
  cases accepted

theorem verifyStepUpToken_foreign (foreign : token.key ≠ signing.resolveVerificationKey.1)
    (verified : VerifiedStepUp) :
    verifyStepUpToken jose signing config token dateNow ≠ .ok verified := by
  obtain ⟨thrown, failed⟩ := jwtVerify_foreign foreign config.issuer config.audience
  intro accepted
  dsimp only [verifyStepUpToken] at accepted
  rw [failed] at accepted
  cases accepted

/-- An access token is no step-up token. -/
theorem readStepUp_signJwt (claims : JwtClaims) (config : JwtConfig) (minted : ℕ) :
    readStepUp (signJwt claims config minted) = .error (.claimMismatch "not a step-up token") := by
  have unmarked : (signJwt claims config minted).lookup "step_up" = none := by
    simp [signJwt, List.lookup_cons]
  unfold readStepUp
  rw [unmarked]
  split
  · rename_i held
    cases held
  · rfl

theorem readStepUp_signStepUpToken (claims : StepUpClaims) (config : JwtConfig) (minted : ℕ) :
    readStepUp (signStepUpToken claims config minted) =
      .ok ⟨claims.sub, claims.email, claims.role, .int (epochSeconds minted),
        .int (epochSeconds minted + stepUpExpiresInSeconds)⟩ := by
  have role : ((signStepUpToken claims config minted).lookup "role").bind userRole? =
      some claims.role := by
    simp [signStepUpToken, List.lookup_cons, userRole_text]
  unfold readStepUp
  rw [role]
  rfl

theorem registered_signStepUpToken (claims : StepUpClaims) (config : JwtConfig) (minted : ℕ) :
    Registered (signStepUpToken claims config minted) config.issuer config.audience
      (epochSeconds minted + stepUpExpiresInSeconds) where
  issuer := by simp [signStepUpToken, List.lookup_cons]
  audience := by simp [signStepUpToken, List.lookup_cons]
  issued := ⟨epochSeconds minted, by simp [signStepUpToken, List.lookup_cons]⟩
  expires := by simp [signStepUpToken, List.lookup_cons]
  unbounded := by simp [signStepUpToken, List.lookup_cons]

/-- A step-up token is verified as what was signed, until it expires. -/
theorem verifyStepUpToken_signStepUpToken {claims : StepUpClaims} {minted : ℕ}
    {verified : VerifiedStepUp} :
    verifyStepUpToken jose signing config (signing.sign (signStepUpToken claims config minted))
        dateNow = .ok verified ↔
      epochSeconds dateNow < epochSeconds minted + stepUpExpiresInSeconds ∧
        verified = ⟨claims.sub, claims.email, claims.role, .int (epochSeconds minted),
          .int (epochSeconds minted + stepUpExpiresInSeconds)⟩ := by
  have registered := registered_signStepUpToken claims config minted
  rw [verifyStepUpToken_sign]
  by_cases unexpired : epochSeconds dateNow < epochSeconds minted + stepUpExpiresInSeconds
  · rw [jose.validate_unexpired _ _ _ _ _ registered unexpired]
    dsimp only
    rw [readStepUp_signStepUpToken, Except.ok.injEq, eq_comm]
    exact (and_iff_right unexpired).symm
  · rw [jose.validate_expired _ _ _ _ _ registered (Int.not_lt.mp unexpired)]
    simp [unexpired]

/-- An access token is verified as what was signed, until it expires. -/
theorem verifyJwt_signJwt {claims : JwtClaims} {minted : ℕ} {verified : VerifiedJwt} :
    verifyJwt jose signing config (signing.sign (signJwt claims config minted)) dateNow =
        .ok verified ↔
      epochSeconds dateNow < epochSeconds minted + config.expiresInSeconds ∧
        verified = ⟨claims.sub, claims.email, claims.role, claims.jti, claims.plan.getD .free,
          .int (epochSeconds minted), .int (epochSeconds minted + config.expiresInSeconds)⟩ := by
  have registered := registered_signJwt claims config minted
  rw [verifyJwt_sign]
  by_cases unexpired : epochSeconds dateNow < epochSeconds minted + config.expiresInSeconds
  · rw [jose.validate_unexpired _ _ _ _ _ registered unexpired]
    dsimp only
    rw [readAccess_signJwt, Except.ok.injEq, eq_comm]
    exact (and_iff_right unexpired).symm
  · rw [jose.validate_expired _ _ _ _ _ registered (Int.not_lt.mp unexpired)]
    simp [unexpired]

/-- An access token is never verified as a step-up token. -/
theorem verifyStepUpToken_signJwt {claims : JwtClaims} {minted : ℕ} (verified : VerifiedStepUp) :
    verifyStepUpToken jose signing config (signing.sign (signJwt claims config minted)) dateNow ≠
      .ok verified := by
  rw [verifyStepUpToken_sign]
  intro accepted
  split at accepted
  · cases accepted
  · rename_i validated same
    cases jose.validate_payload _ _ _ _ _ same
    rw [readStepUp_signJwt] at accepted
    cases accepted

end Tokens

/-! ## Where a step-up token comes from -/

/-- The user that claims name. -/
def user (claims : JwtClaims) : StepUpClaims := ⟨claims.sub, claims.email, claims.role⟩

/-- The bearer of an access token that was signed for the claims and has not expired. -/
def Signed (state : State) (bearer : Bearer) (claims : JwtClaims) (dateNow : ℕ) : Prop :=
  ∃ number minted, bearer = .access number ∧ state.accesses[number]? = some (claims, minted) ∧
    epochSeconds dateNow < epochSeconds minted + service.config.expiresInSeconds

/-- The body has six digits that the one-time passwords take for the secret beside them. -/
def Coded (json : PyJson) (dateNow : ℕ) : Prop :=
  ∃ code secretKey secret, safeParse json = some (code, secretKey) ∧
    service.otp.fromBase32 secretKey = some secret ∧
    (service.otp.validate secret code mfaVerifyWindow dateNow).isSome

/-- A step-up token that was given to the bearer of an access token, for a code, and that names the
user of that access token. -/
structure Earned (state : State) (grant : Grant) (claims : JwtClaims) : Prop where
  bearer : Signed service state grant.bearer claims grant.granted
  code : Coded service grant.json grant.granted
  token : grant.token = service.signing.sign
    (signStepUpToken (user claims) service.config grant.granted)

/-- Every step-up token has been earned. -/
def Invariant (state : State) : Prop :=
  ∀ grant ∈ state.grants, ∃ claims, Earned service state grant claims

variable {service} {state after : State} {bearer : Bearer} {token : Option Token} {dateNow : ℕ}
  {json : PyJson} {claims : JwtClaims} {grant : Grant}

/-- A code that the schema admits has its six digits. -/
theorem isCode_of_safeParse {code secretKey : String}
    (parsed : safeParse json = some (code, secretKey)) : IsCode code := by
  unfold safeParse at parsed
  split at parsed
  case h_2 => cases parsed
  case h_1 =>
    split at parsed
    case h_2 => cases parsed
    case h_1 =>
      obtain ⟨admitted, same⟩ := Option.ite_none_right_eq_some.mp parsed
      cases same
      exact admitted.1

/-- A code is verified if it is taken for the secret. A code that comes so far is never malformed. -/
theorem mfaVerify_eq_ok {answer : Token × ℤ} :
    mfaVerify service token json dateNow = .ok answer ↔
      ∃ found, service.claims token dateNow = .ok found ∧ Coded service json dateNow ∧
        answer = (service.signing.sign (signStepUpToken ⟨found.sub, found.email, found.role⟩
          service.config dateNow), epochSeconds dateNow + stepUpExpiresInSeconds) := by
  unfold mfaVerify
  rw [Except.bind_eq_ok]
  apply exists_congr
  intro found
  apply and_congr_right
  intro _
  unfold Coded
  cases parsed : safeParse json with
  | none => simp
  | some body =>
      obtain ⟨code, secretKey⟩ := body
      have shaped := isCode_of_safeParse parsed
      dsimp only [verifyMfaCode]
      rw [if_neg (not_not.mpr shaped)]
      cases read : service.otp.fromBase32 secretKey with
      | none => simp [read]
      | some secret =>
          cases taken : service.otp.validate secret code mfaVerifyWindow dateNow with
          | none => simp [read, taken]
          | some delta =>
              have coded : ∃ digits key held, some (code, secretKey) = some (digits, key) ∧
                  service.otp.fromBase32 key = some held ∧
                  (service.otp.validate held digits mfaVerifyWindow dateNow).isSome :=
                ⟨code, secretKey, secret, rfl, read, by rw [taken]; rfl⟩
              rw [and_iff_right coded]
              dsimp only
              rw [taken]
              exact (Except.ok.injEq ..).to_iff.trans eq_comm

/-- The claims are read from what verifies as an access token. -/
theorem claims_eq_ok {presented : Token} {found : VerifiedJwt} :
    service.claims (some presented) dateNow = .ok found ↔
      verifyJwt service.jose service.signing service.config presented dateNow = .ok found := by
  unfold Service.claims
  dsimp only
  cases verifyJwt service.jose service.signing service.config presented dateNow with
  | error thrown => simp
  | ok claims => simp

/-- An offer is made to an administrator. -/
theorem mfaEnroll_eq_ok {secret : Secret} {offer : EnrollmentOffer} :
    mfaEnroll service token secret dateNow = .ok offer ↔
      ∃ found, service.claims token dateNow = .ok found ∧ found.role = .admin ∧
        offer = enrollMfa service.otp found.email secret := by
  unfold mfaEnroll
  rw [Except.bind_eq_ok]
  apply exists_congr
  intro found
  apply and_congr_right
  intro _
  by_cases admin : found.role = .admin
  · simp [admin, eq_comm]
  · simp [admin]

/-- A challenge is met by what verifies as a step-up token. -/
theorem mfaChallenge_eq_ok {presented : Token} {named : StepUpClaims} :
    mfaChallenge service (some presented) dateNow = .ok named ↔ ∃ found,
      verifyStepUpToken service.jose service.signing service.config presented dateNow = .ok found ∧
        named = ⟨found.sub, found.email, found.role⟩ := by
  unfold mfaChallenge
  dsimp only
  cases verifyStepUpToken service.jose service.signing service.config presented dateNow with
  | error thrown => simp
  | ok found => simp [eq_comm]

/-- Only the bearer of an unexpired access token is taken for its user. -/
theorem claims_presented (invariant : Invariant service state)
    (presented : state.present service bearer = some token) {named : StepUpClaims} :
    (∃ found, service.claims token dateNow = .ok found ∧
        named = ⟨found.sub, found.email, found.role⟩) ↔
      ∃ claims, Signed service state bearer claims dateNow ∧ named = user claims := by
  cases bearer with
  | missing =>
      obtain rfl := Option.some.inj presented
      constructor
      · intro ⟨_, read, _⟩
        cases read
      · intro ⟨_, ⟨_, _, other, _⟩, _⟩
        cases other
  | access number =>
      obtain ⟨⟨claims, minted⟩, held, rfl⟩ := Option.map_eq_some_iff.mp presented
      constructor
      · intro ⟨found, read, named⟩
        obtain ⟨unexpired, rfl⟩ := verifyJwt_signJwt.mp (claims_eq_ok.mp read)
        exact ⟨claims, ⟨number, minted, rfl, held, unexpired⟩, named⟩
      · intro ⟨other, ⟨_, _, same, its, unexpired⟩, named⟩
        cases same
        cases held.symm.trans its
        exact ⟨_, claims_eq_ok.mpr (verifyJwt_signJwt.mpr ⟨unexpired, rfl⟩), named⟩
  | stepUp number =>
      obtain ⟨grant, held, rfl⟩ := Option.map_eq_some_iff.mp presented
      constructor
      · intro ⟨found, read, _⟩
        obtain ⟨_, earned⟩ := invariant grant (List.mem_of_getElem? held)
        rw [earned.token, claims_eq_ok] at read
        exact absurd read (verifyJwt_signStepUpToken _ _ _)
      · intro ⟨_, ⟨_, _, other, _⟩, _⟩
        cases other
  | foreign theirs =>
      obtain ⟨foreign, same⟩ := Option.ite_none_left_eq_some.mp presented
      obtain rfl := Option.some.inj same
      constructor
      · intro ⟨found, read, _⟩
        exact absurd (claims_eq_ok.mp read) (verifyJwt_foreign foreign found)
      · intro ⟨_, ⟨_, _, other, _⟩, _⟩
        cases other

/-- Only the bearer of an unexpired step-up token meets a challenge. -/
theorem challenge_presented (invariant : Invariant service state)
    (presented : state.present service bearer = some token) {named : StepUpClaims} :
    mfaChallenge service token dateNow = .ok named ↔
      ∃ number grant claims, bearer = .stepUp number ∧ state.grants[number]? = some grant ∧
        Earned service state grant claims ∧ named = user claims ∧
        epochSeconds dateNow < epochSeconds grant.granted + stepUpExpiresInSeconds := by
  cases bearer with
  | missing =>
      obtain rfl := Option.some.inj presented
      constructor
      · intro met
        cases met
      · intro ⟨_, _, _, other, _⟩
        cases other
  | access number =>
      obtain ⟨signed, held, rfl⟩ := Option.map_eq_some_iff.mp presented
      constructor
      · intro met
        obtain ⟨found, read, _⟩ := mfaChallenge_eq_ok.mp met
        exact absurd read (verifyStepUpToken_signJwt found)
      · intro ⟨_, _, _, other, _⟩
        cases other
  | stepUp number =>
      obtain ⟨grant, held, rfl⟩ := Option.map_eq_some_iff.mp presented
      constructor
      · intro met
        obtain ⟨claims, earned⟩ := invariant grant (List.mem_of_getElem? held)
        rw [earned.token] at met
        obtain ⟨found, read, rfl⟩ := mfaChallenge_eq_ok.mp met
        obtain ⟨unexpired, rfl⟩ := verifyStepUpToken_signStepUpToken.mp read
        exact ⟨number, grant, claims, rfl, held, earned, rfl, unexpired⟩
      · intro ⟨_, _, claims, same, its, earned, named, unexpired⟩
        cases same
        cases held.symm.trans its
        rw [earned.token, mfaChallenge_eq_ok]
        exact ⟨_, verifyStepUpToken_signStepUpToken.mpr ⟨unexpired, rfl⟩, named⟩
  | foreign theirs =>
      obtain ⟨foreign, same⟩ := Option.ite_none_left_eq_some.mp presented
      obtain rfl := Option.some.inj same
      constructor
      · intro met
        obtain ⟨found, read, _⟩ := mfaChallenge_eq_ok.mp met
        exact absurd read (verifyStepUpToken_foreign foreign found)
      · intro ⟨_, _, _, other, _⟩
        cases other

/-! ## Any order of requests -/

/-- What was signed stays signed. -/
theorem Signed.later {bearer : Bearer} (signed : Signed service state bearer claims dateNow)
    (later : List (JwtClaims × ℕ)) :
    Signed service { state with accesses := state.accesses ++ later } bearer claims dateNow := by
  obtain ⟨number, minted, same, held, unexpired⟩ := signed
  have kept : (state.accesses ++ later)[number]? = state.accesses[number]? :=
    List.getElem?_append_left (List.getElem?_eq_some_iff.mp held).1
  exact ⟨number, minted, same, kept.trans held, unexpired⟩

/-- A step-up token that is given is earned by its bearer. -/
theorem earned_of_mfaVerify (invariant : Invariant service state)
    (presented : state.present service bearer = some token) {given : Token} {expiresAt : ℤ}
    (answered : mfaVerify service token json dateNow = .ok (given, expiresAt)) :
    ∃ claims, Earned service state ⟨bearer, json, dateNow, given⟩ claims := by
  obtain ⟨found, read, coded, same⟩ := mfaVerify_eq_ok.mp answered
  obtain ⟨rfl, -⟩ := Prod.mk.inj same
  obtain ⟨claims, signed, named⟩ := (claims_presented invariant presented).mp ⟨found, read, rfl⟩
  exact ⟨claims, signed, coded, by rw [named]⟩

theorem Invariant.step {action : Action} (invariant : Invariant service state)
    (taken : step service state action = some after) : Invariant service after := by
  cases action with
  | sign claims dateNow =>
      cases taken
      intro grant member
      obtain ⟨theirs, earned⟩ := invariant grant member
      exact ⟨theirs, earned.bearer.later _, earned.code, earned.token⟩
  | verify bearer json dateNow =>
      obtain ⟨token, presented, rfl⟩ := Option.map_eq_some_iff.mp taken
      cases answered : mfaVerify service token json dateNow with
      | error refusal => exact invariant
      | ok answer =>
          obtain ⟨given, expiresAt⟩ := answer
          intro grant member
          rcases List.mem_append.mp member with before | now
          · obtain ⟨claims, earned⟩ := invariant grant before
            exact ⟨claims, earned.bearer, earned.code, earned.token⟩
          · obtain rfl := List.mem_singleton.mp now
            obtain ⟨claims, earned⟩ := earned_of_mfaVerify invariant presented answered
            exact ⟨claims, earned.bearer, earned.code, earned.token⟩

theorem invariant_of_execute {actions : List Action} {final : State}
    (run : execute (step service) ⟨[], []⟩ actions = some final) : Invariant service final := by
  have initial : Invariant service ⟨[], []⟩ := fun _ member => absurd member List.not_mem_nil
  exact execute_invariant_of_step initial (fun _ _ _ invariant taken => invariant.step taken) run

/-- **A challenge is met by an earned step-up token only.** Whatever tokens are signed, verified and
presented in whatever order: `/mfa/challenge` answers a bearer with a user if and only if the token is
a step-up token that is not five minutes old, given by `/mfa/verify` to the bearer of an unexpired
access token of that user, who sent a code together with a secret it is a code of. Access tokens and
tokens of others are refused. -/
theorem challenge_of_execute (service : Service Secret) (actions : List Action) (final : State)
    (run : execute (step service) ⟨[], []⟩ actions = some final) (bearer : Bearer)
    (token : Option Token) (presented : final.present service bearer = some token) (dateNow : ℕ)
    (named : StepUpClaims) :
    mfaChallenge service token dateNow = .ok named ↔
      ∃ number grant claims, bearer = .stepUp number ∧ final.grants[number]? = some grant ∧
        Earned service final grant claims ∧ named = user claims ∧
        epochSeconds dateNow < epochSeconds grant.granted + stepUpExpiresInSeconds :=
  challenge_presented (invariant_of_execute run) presented

/-- The one-time passwords of one secret, at the second step of thirty seconds. -/
def sampleOtp : OtpAuth String where
  base32 secret := secret
  fromBase32 text := if text = "GEZDGNBVGY3TQOJQGEZDGNBVGY3TQOJQ" then some text else none
  toUri issuer label secret := "otpauth://totp/" ++ issuer ++ ":" ++ label ++ "?secret=" ++ secret
  validate _ code _ dateNow :=
    if code = "287082" ∧ dateNow / 30000 = 1 then some 0 else none

/-- A service that signs with HS256. -/
def sampleService : Service String where
  jose := AuthClient.registeredJose
  signing := .hs256 "secret"
  config := ⟨"https://auth.panakoes.com", "panakoes-api", 3600⟩
  otp := sampleOtp

/-- An administrator. -/
def sampleClaims : JwtClaims := ⟨"u-1", "ada@panakoes.com", .admin, "s-1", none⟩

/-- The code of the secret at 59 seconds. -/
def sampleBody : PyJson :=
  .dict [("code", .str "287082"), ("secret_key", .str "GEZDGNBVGY3TQOJQGEZDGNBVGY3TQOJQ")]

/-- The administrator sends the code. -/
def sampleRun : List Action := [.sign sampleClaims 31000, .verify (.access 0) sampleBody 59000]

/-- The code is one of the secret. -/
theorem coded_sampleBody : Coded sampleService sampleBody 59000 :=
  ⟨"287082", "GEZDGNBVGY3TQOJQGEZDGNBVGY3TQOJQ", "GEZDGNBVGY3TQOJQGEZDGNBVGY3TQOJQ",
    by decide +kernel, by decide +kernel, by decide +kernel⟩

/-- The step-up token that is given meets a challenge a little later. -/
theorem challenge_of_execute_earned :
    ∃ final, execute (step sampleService) ⟨[], []⟩ sampleRun = some final ∧
      ∃ token, final.present sampleService (.stepUp 0) = some token ∧
        mfaChallenge sampleService token 100000 = .ok (user sampleClaims) := by
  refine ⟨_, rfl, _, rfl, ?_⟩
  apply (challenge_of_execute sampleService sampleRun _ rfl (.stepUp 0) _ rfl _ _).mpr
  exact ⟨0, _, sampleClaims, rfl, rfl,
    ⟨⟨0, 31000, rfl, rfl, by decide⟩, coded_sampleBody, rfl⟩, rfl, by decide⟩

/-- **A step-up is asked for with an access token only.** In the same runs, `/mfa/enroll` makes an
offer if and only if the bearer has an unexpired access token of an administrator, and `/mfa/verify` gives a
step-up token if and only if the bearer has an unexpired access token, of any role, and sends a code
together with a secret it is a code of, whichever secret that is; the token then names the user of the
access token. A step-up token opens neither. -/
theorem requests_of_execute (service : Service Secret) (actions : List Action) (final : State)
    (run : execute (step service) ⟨[], []⟩ actions = some final) (bearer : Bearer)
    (token : Option Token) (presented : final.present service bearer = some token) (dateNow : ℕ) :
    (∀ secret offer, mfaEnroll service token secret dateNow = .ok offer ↔
        ∃ claims, Signed service final bearer claims dateNow ∧ claims.role = .admin ∧
          offer = enrollMfa service.otp claims.email secret) ∧
      ∀ json given expiresAt, mfaVerify service token json dateNow = .ok (given, expiresAt) ↔
        Coded service json dateNow ∧ expiresAt = epochSeconds dateNow + stepUpExpiresInSeconds ∧
          ∃ claims, Signed service final bearer claims dateNow ∧
            given = service.signing.sign
              (signStepUpToken (user claims) service.config dateNow) := by
  have invariant := invariant_of_execute run
  constructor
  · intro secret offer
    rw [mfaEnroll_eq_ok]
    constructor
    · intro ⟨found, read, admin, offered⟩
      obtain ⟨claims, signed, named⟩ :=
        (claims_presented invariant presented).mp ⟨found, read, rfl⟩
      obtain ⟨-, email, role⟩ := StepUpClaims.mk.inj named
      exact ⟨claims, signed, role ▸ admin, email ▸ offered⟩
    · intro ⟨claims, signed, admin, offered⟩
      obtain ⟨found, read, named⟩ :=
        (claims_presented invariant presented).mpr ⟨claims, signed, rfl⟩
      obtain ⟨-, email, role⟩ := StepUpClaims.mk.inj named
      exact ⟨found, read, role ▸ admin, email ▸ offered⟩
  · intro json given expiresAt
    rw [mfaVerify_eq_ok]
    constructor
    · intro ⟨found, read, coded, answered⟩
      obtain ⟨rfl, rfl⟩ := Prod.mk.inj answered
      obtain ⟨claims, signed, named⟩ :=
        (claims_presented invariant presented).mp ⟨found, read, rfl⟩
      exact ⟨coded, rfl, claims, signed, by rw [named]⟩
    · intro ⟨coded, expires, claims, signed, same⟩
      obtain ⟨found, read, named⟩ :=
        (claims_presented invariant presented).mpr ⟨claims, signed, rfl⟩
      refine ⟨found, read, coded, ?_⟩
      rw [same, expires, named]

/-- With the access token of the administrator an offer is made. -/
theorem requests_of_execute_admin :
    ∃ final, execute (step sampleService) ⟨[], []⟩ sampleRun = some final ∧
      ∃ token, final.present sampleService (.access 0) = some token ∧
        ∃ offer,
          mfaEnroll sampleService token "GEZDGNBVGY3TQOJQGEZDGNBVGY3TQOJQ" 60000 = .ok offer := by
  refine ⟨_, rfl, _, rfl, ?_⟩
  have requests := requests_of_execute sampleService sampleRun _ rfl (.access 0) _ rfl 60000
  exact ⟨_, (requests.1 _ _).mpr ⟨sampleClaims, ⟨0, 31000, rfl, rfl, by decide⟩, rfl, rfl⟩⟩

end Panakoes.Auth.Mfa
