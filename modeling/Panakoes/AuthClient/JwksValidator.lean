import Mathlib.Algebra.Order.Floor.Semifield
import Mathlib.Data.Rat.Floor
import Mathlib.Tactic.Linarith
import Panakoes.Auth.Verify
import Panakoes.AuthClient.Validator

/-! # Token classes

The auth service and its Python clients verify the same tokens: the service with `verifyJwt`,
a client with `JwksJwtValidator`, which knows the service by its JWKS. A step-up token is no
access token for the service, as it names no session. The client asks for no session and does
not look at `step_up`.
-/

namespace Panakoes.AuthClient

open Auth

/-- `JwksJwtValidator`. `jwks` is what the JWKS cache answers for a `kid`. -/
structure JwksJwtValidator where
  issuer : String
  audience : String
  jwks : String → Option String

/-- `JwksJwtValidator.validate`, or `none` for a `JwtInvalidError`. -/
def JwksJwtValidator.validate (validator : JwksJwtValidator) (libraries : Libraries)
    (token : Token) (now : ℚ) : Option JwtClaims := do
  let kid ← token.kid
  guard (kid ≠ "")
  let key ← validator.jwks kid
  guard (token.algorithm = .rs256 ∧ token.key = .rsa key)
  libraries.validate token.payload validator.issuer validator.audience now

/-- PyJWT refuses a token of another issuer, for another audience, issued in the future or
expired. -/
structure StrictLibraries extends Libraries where
  decode_issuer : ∀ payload issuer audience now decoded text,
    decode payload issuer audience now = some decoded →
      payload.lookup "iss" = some (.str text) → text = issuer
  decode_audience : ∀ payload issuer audience now decoded text,
    decode payload issuer audience now = some decoded →
      payload.lookup "aud" = some (.str text) → text = audience
  decode_issued : ∀ payload issuer audience now decoded (iat : ℤ),
    decode payload issuer audience now = some decoded →
      payload.lookup "iat" = some (.int iat) → (iat : ℚ) ≤ now
  decode_unexpired : ∀ payload issuer audience now decoded (exp : ℤ),
    decode payload issuer audience now = some decoded →
      payload.lookup "exp" = some (.int exp) → now < (exp : ℚ)

/-- The claims that the clients read, as the auth service writes them. -/
structure Written (payload : Payload) (sub issuer audience : String) (iat exp : ℤ) : Prop where
  registered : Registered payload issuer audience exp
  subject : payload.lookup "sub" = some (.str sub)
  issued : payload.lookup "iat" = some (.int iat)
  identifier : payload.lookup "jti" = none ∨ ∃ jti, payload.lookup "jti" = some (.str jti)
  scopes : payload.lookup "scopes" = none
  role : ∃ role, payload.lookup "role" = some (.str role)
  mfaStepUpAt : payload.lookup "mfa_step_up_at" = none

theorem written_signJwt (claims : Auth.JwtClaims) (config : JwtConfig) (minted : ℕ) :
    Written (signJwt claims config minted) claims.sub config.issuer config.audience
      (epochSeconds minted) (epochSeconds minted + config.expiresInSeconds) where
  registered := registered_signJwt claims config minted
  subject := by simp [signJwt, List.lookup_cons]
  issued := by simp [signJwt, List.lookup_cons]
  identifier := Or.inr ⟨claims.jti, by simp [signJwt, List.lookup_cons]⟩
  scopes := by simp [signJwt, List.lookup_cons]
  role := ⟨claims.role.text, by simp [signJwt, List.lookup_cons]⟩
  mfaStepUpAt := by simp [signJwt, List.lookup_cons]

theorem written_signStepUpToken (claims : StepUpClaims) (config : JwtConfig) (minted : ℕ) :
    Written (signStepUpToken claims config minted) claims.sub config.issuer config.audience
      (epochSeconds minted) (epochSeconds minted + stepUpExpiresInSeconds) where
  registered :=
    { issuer := by simp [signStepUpToken, List.lookup_cons]
      audience := by simp [signStepUpToken, List.lookup_cons]
      issued := ⟨epochSeconds minted, by simp [signStepUpToken, List.lookup_cons]⟩
      expires := by simp [signStepUpToken, List.lookup_cons]
      unbounded := by simp [signStepUpToken, List.lookup_cons] }
  subject := by simp [signStepUpToken, List.lookup_cons]
  issued := by simp [signStepUpToken, List.lookup_cons]
  identifier := Or.inl (by simp [signStepUpToken, List.lookup_cons])
  scopes := by simp [signStepUpToken, List.lookup_cons]
  role := ⟨claims.role.text, by simp [signStepUpToken, List.lookup_cons]⟩
  mfaStepUpAt := by simp [signStepUpToken, List.lookup_cons]

section Validate

variable {libraries : Libraries} {payload : Payload} {sub issuer audience : String} {iat exp : ℤ}
  {now : ℚ}

/-- None of the claims that must not be empty is blank. -/
def Readable (libraries : Libraries) (sub issuer audience : String) : Prop :=
  libraries.strip sub ≠ "" ∧ libraries.strip issuer ≠ "" ∧ libraries.strip audience ≠ ""

/-- A required string is read unless it is blank. -/
theorem isSome_required_iff {name value : String} (held : payload.lookup name = some (.str value)) :
    (libraries.required payload name).isSome ↔ libraries.strip value ≠ "" := by
  unfold Libraries.required
  rw [held]
  change (Option.filter _ (some (libraries.strip value))).isSome ↔ _
  by_cases blank : libraries.strip value = ""
  · simp [Option.filter, blank]
  · simp [Option.filter, blank]

/-- The claims are those of the model when none of them is blank. -/
theorem Written.isSome_modelValidate_iff (libraries : Libraries)
    (written : Written payload sub issuer audience iat exp) :
    (libraries.modelValidate payload).isSome ↔ Readable libraries sub issuer audience := by
  have iatRead : (payload.lookup "iat").bind libraries.int = some iat :=
    Libraries.int_of_held written.issued
  have expRead : (payload.lookup "exp").bind libraries.int = some exp :=
    Libraries.int_of_held written.registered.expires
  have jti : ∃ jti, Libraries.optional libraries.text payload "jti" = some jti := by
    rcases written.identifier with missing | ⟨jti, held⟩
    · exact ⟨none, Libraries.optional_absent missing⟩
    · exact ⟨some (libraries.strip jti), Libraries.optional_str held⟩
  have scopes : libraries.scopes payload = some [] := by
    unfold Libraries.scopes
    rw [written.scopes]
  obtain ⟨jti, jtiRead⟩ := jti
  obtain ⟨role, held⟩ := written.role
  have roleRead : Libraries.optional libraries.text payload "role" =
      some (some (libraries.strip role)) := Libraries.optional_str held
  have steppedUp : Libraries.optional libraries.int payload "mfa_step_up_at" = some none :=
    Libraries.optional_absent written.mfaStepUpAt
  unfold Readable
  rw [← isSome_required_iff written.subject, ← isSome_required_iff written.registered.issuer,
    ← isSome_required_iff written.registered.audience]
  simp only [Libraries.modelValidate, iatRead, expRead, jtiRead, scopes, roleRead, steppedUp]
  cases libraries.required payload "sub" <;> cases libraries.required payload "iss" <;>
    cases libraries.required payload "aud" <;> simp

/-- A payload of the auth service is valid within its lifetime, for its issuer and its
audience. -/
theorem Written.isSome_validate_iff (libraries : StrictLibraries)
    (written : Written payload sub issuer audience iat exp) {expected intended : String} :
    (libraries.validate payload expected intended now).isSome ↔
      (issuer = expected ∧ audience = intended ∧ Readable libraries.toLibraries sub issuer audience) ∧
        (iat : ℚ) ≤ now ∧ now < (exp : ℚ) := by
  rw [← written.isSome_modelValidate_iff libraries.toLibraries]
  unfold Libraries.validate
  constructor
  · intro accepted
    obtain ⟨claims, accepted⟩ := Option.isSome_iff_exists.mp accepted
    obtain ⟨decoded, same, valid⟩ := Option.bind_eq_some_iff.mp accepted
    cases libraries.decode_payload _ _ _ _ _ same
    exact ⟨⟨libraries.decode_issuer _ _ _ _ _ _ same written.registered.issuer,
      libraries.decode_audience _ _ _ _ _ _ same written.registered.audience,
      Option.isSome_iff_exists.mpr ⟨claims, valid⟩⟩,
      libraries.decode_issued _ _ _ _ _ _ same written.issued,
      libraries.decode_unexpired _ _ _ _ _ _ same written.registered.expires⟩
  · rintro ⟨⟨rfl, rfl, valid⟩, issued, unexpired⟩
    have inForce : InForce payload issuer audience now :=
      { issuer := written.registered.issuer
        audience := written.registered.audience
        issued := ⟨iat, written.issued, issued⟩
        unexpired := ⟨exp, written.registered.expires, unexpired⟩
        subject := ⟨sub, written.subject⟩
        identifier := by
          intro jti held
          rcases written.identifier with missing | ⟨text, same⟩
          · rw [missing] at held
            cases held
          · exact ⟨text, Option.some.inj (held.symm.trans same)⟩
        unbounded := written.registered.unbounded }
    rw [libraries.decode_inForce _ _ _ _ inForce]
    exact valid

end Validate

/-! ## The two verifiers -/

/-- A token that the auth service mints. -/
inductive Minted where
  | access (claims : Auth.JwtClaims)
  | stepUp (claims : StepUpClaims)

/-- The payload of a token minted at a reading of the clock. -/
def Minted.payload (config : JwtConfig) (dateNow : ℕ) : Minted → Payload
  | .access claims => signJwt claims config dateNow
  | .stepUp claims => signStepUpToken claims config dateNow

/-- The user of a token. -/
def Minted.sub : Minted → String
  | .access claims => claims.sub
  | .stepUp claims => claims.sub

/-- The lifetime of a token in seconds. -/
def Minted.lifetime (config : JwtConfig) : Minted → ℤ
  | .access _ => config.expiresInSeconds
  | .stepUp _ => stepUpExpiresInSeconds

theorem Minted.written (token : Minted) (config : JwtConfig) (minted : ℕ) :
    Written (token.payload config minted) token.sub config.issuer config.audience
      (epochSeconds minted) (epochSeconds minted + token.lifetime config) := by
  cases token with
  | access claims => exact written_signJwt claims config minted
  | stepUp claims => exact written_signStepUpToken claims config minted

/-- `Date.now()` at an instant. -/
def dateNow (now : ℚ≥0) : ℕ := ⌊(now : ℚ) * 1000⌋₊

/-- The auth service reads the whole seconds of the instant. -/
theorem epochSeconds_dateNow (now : ℚ≥0) : epochSeconds (dateNow now) = ⌊(now : ℚ)⌋ := by
  have seconds : dateNow now / 1000 = ⌊(now : ℚ)⌋₊ := by
    have whole := Nat.floor_div_natCast ((now : ℚ) * 1000) 1000
    rw [Nat.cast_ofNat, mul_div_cancel_right₀ _ (by norm_num)] at whole
    exact whole.symm
  rw [epochSeconds, seconds, Int.natCast_floor_eq_floor now.coe_nonneg]

/-- What the token is asked of: the verifier of the auth service and the one of a client. -/
structure Verifiers where
  jose : Jose
  libraries : StrictLibraries
  signing : Signing
  config : JwtConfig
  validator : JwksJwtValidator

namespace Verifiers

variable (verifiers : Verifiers)

/-- A minted token. -/
def mint (token : Minted) (minted : ℕ) : Token :=
  verifiers.signing.sign (token.payload verifiers.config minted)

/-- The auth service accepts the token as an access token. -/
def ServiceAccepts (token : Token) (now : ℚ≥0) : Prop :=
  ∃ verified, verifyJwt verifiers.jose verifiers.signing verifiers.config token (dateNow now) =
    .ok verified

/-- The client accepts the token as an access token. -/
def ClientAccepts (token : Token) (now : ℚ≥0) : Prop :=
  (verifiers.validator.validate verifiers.libraries.toLibraries token now).isSome

/-- The classes of tokens are kept apart for a token at an instant: a step-up token is
accepted by neither, and the two accept the same. -/
structure KeepsClasses (token : Minted) (minted : ℕ) (now : ℚ≥0) : Prop where
  narrow : ∀ claims, token = .stepUp claims →
    ¬ verifiers.ServiceAccepts (verifiers.mint token minted) now ∧
      ¬ verifiers.ClientAccepts (verifiers.mint token minted) now
  agree : verifiers.ServiceAccepts (verifiers.mint token minted) now ↔
    verifiers.ClientAccepts (verifiers.mint token minted) now

/-- The client knows the auth service, and can read tokens of the user: the tokens are signed
with a key that the JWKS has, for the issuer and the audience that the client expects. -/
structure Knows (sub : String) : Prop where
  key : ∃ kmsSigner, verifiers.signing = .rs256 kmsSigner ∧ kmsSigner.kid ≠ "" ∧
    verifiers.validator.jwks kmsSigner.kid = some kmsSigner.key
  issuer : verifiers.config.issuer = verifiers.validator.issuer
  audience : verifiers.config.audience = verifiers.validator.audience
  readable : Readable verifiers.libraries.toLibraries sub verifiers.config.issuer
    verifiers.config.audience

variable {verifiers} {token : Minted} {minted : ℕ} {now : ℚ≥0}

/-- The client checks the signature with the key that the JWKS has under the `kid`. -/
theorem isSome_validate_sign_iff (payload : Payload) (time : ℚ) :
    (verifiers.validator.validate verifiers.libraries.toLibraries (verifiers.signing.sign payload)
        time).isSome ↔
      (∃ kmsSigner, verifiers.signing = .rs256 kmsSigner ∧ kmsSigner.kid ≠ "" ∧
          verifiers.validator.jwks kmsSigner.kid = some kmsSigner.key) ∧
        (verifiers.libraries.validate payload verifiers.validator.issuer
          verifiers.validator.audience time).isSome := by
  cases verifiers.signing with
  | hs256 secret =>
      simp [JwksJwtValidator.validate, Signing.sign]
  | rs256 kmsSigner =>
      by_cases named : kmsSigner.kid = ""
      · simp [JwksJwtValidator.validate, Signing.sign, named]
      · cases known : verifiers.validator.jwks kmsSigner.kid with
        | none => simp [JwksJwtValidator.validate, Signing.sign, known]
        | some key =>
            by_cases same : kmsSigner.key = key
            · simp [JwksJwtValidator.validate, Signing.sign, named, known, same]
            · simp [JwksJwtValidator.validate, Signing.sign, named, known, same, Ne.symm same]

/-- A client accepts every token that it can read while it is in force. -/
theorem clientAccepts_iff (verifiers : Verifiers) (token : Minted) (minted : ℕ) (now : ℚ≥0) :
    verifiers.ClientAccepts (verifiers.mint token minted) now ↔
      verifiers.Knows token.sub ∧ (epochSeconds minted : ℚ) ≤ now ∧
        (now : ℚ) < (epochSeconds minted + token.lifetime verifiers.config : ℤ) := by
  unfold ClientAccepts mint
  rw [isSome_validate_sign_iff,
    (token.written verifiers.config minted).isSome_validate_iff verifiers.libraries]
  constructor
  · rintro ⟨key, ⟨issuer, audience, readable⟩, inForce⟩
    exact ⟨⟨key, issuer, audience, readable⟩, inForce⟩
  · rintro ⟨⟨key, issuer, audience, readable⟩, inForce⟩
    exact ⟨key, ⟨issuer, audience, readable⟩, inForce⟩

/-- The auth service accepts an access token until it expires, and no step-up token. -/
theorem serviceAccepts_iff :
    verifiers.ServiceAccepts (verifiers.mint token minted) now ↔
      (∃ claims, token = .access claims) ∧
        (now : ℚ) < (epochSeconds minted + token.lifetime verifiers.config : ℤ) := by
  unfold ServiceAccepts mint
  cases token with
  | access claims =>
      have accepted := verifyJwt_signJwt_iff verifiers.jose verifiers.signing verifiers.config
        (dateNow now) claims minted
      rw [epochSeconds_dateNow, Int.floor_lt] at accepted
      exact accepted.trans ⟨fun unexpired => ⟨⟨claims, rfl⟩, unexpired⟩, fun both => both.2⟩
  | stepUp claims =>
      constructor
      · rintro ⟨verified, accepted⟩
        exact absurd accepted (verifyJwt_signStepUpToken claims minted verified)
      · rintro ⟨⟨_, other⟩, -⟩
        cases other

/-- **The classes are kept apart for an access token exactly when, while it is unexpired, the
client knows the service and the token is not of the future; and for a step-up token exactly
when the client does not know the service or the token is not in force.** -/
theorem keepsClasses_iff (verifiers : Verifiers) (token : Minted) (minted : ℕ) (now : ℚ≥0) :
    verifiers.KeepsClasses token minted now ↔
      match token with
      | .access claims =>
          (now : ℚ) < (epochSeconds minted + verifiers.config.expiresInSeconds : ℤ) →
            verifiers.Knows claims.sub ∧ (epochSeconds minted : ℚ) ≤ now
      | .stepUp claims =>
          ¬ (verifiers.Knows claims.sub ∧ (epochSeconds minted : ℚ) ≤ now ∧
            (now : ℚ) < (epochSeconds minted + stepUpExpiresInSeconds : ℤ)) := by
  have service : verifiers.ServiceAccepts (verifiers.mint token minted) now ↔ _ :=
    serviceAccepts_iff
  have client : verifiers.ClientAccepts (verifiers.mint token minted) now ↔ _ :=
    clientAccepts_iff verifiers token minted now
  cases token with
  | access claims =>
      constructor
      · intro kept unexpired
        obtain ⟨knows, issued, -⟩ :=
          client.mp (kept.agree.mp (service.mpr ⟨⟨claims, rfl⟩, unexpired⟩))
        exact ⟨knows, issued⟩
      · intro known
        refine ⟨fun _ other => (nomatch other), ?_⟩
        rw [service, client]
        constructor
        · rintro ⟨-, unexpired⟩
          obtain ⟨knows, issued⟩ := known unexpired
          exact ⟨knows, issued, unexpired⟩
        · rintro ⟨-, -, unexpired⟩
          exact ⟨⟨claims, rfl⟩, unexpired⟩
  | stepUp claims =>
      have refused : ¬ verifiers.ServiceAccepts (verifiers.mint (.stepUp claims) minted) now := by
        intro accepted
        obtain ⟨⟨_, other⟩, -⟩ := service.mp accepted
        cases other
      constructor
      · intro kept accepted
        exact (kept.narrow claims rfl).2 (client.mpr accepted)
      · intro unknown
        have rejected : ¬ verifiers.ClientAccepts (verifiers.mint (.stepUp claims) minted) now :=
          fun accepted => unknown (client.mp accepted)
        exact ⟨fun _ _ => ⟨refused, rejected⟩, iff_of_false refused rejected⟩

end Verifiers

/-! ## A step-up token of an admin -/

/-- Whether a claim is a string where it is there. -/
def isText : Option PyJson → Bool
  | none | some (.str _) => true
  | _ => false

/-- The claims that PyJWT checks, of a payload in which they have the types they should have. -/
def registeredClaims (payload : Payload) : Option (String × String × ℤ × ℤ) :=
  match payload.lookup "iss", payload.lookup "aud", payload.lookup "iat", payload.lookup "exp",
    payload.lookup "sub", payload.lookup "nbf" with
  | some (.str iss), some (.str aud), some (.int iat), some (.int exp), some (.str _), none =>
      if isText (payload.lookup "jti") then some (iss, aud, iat, exp) else none
  | _, _, _, _, _, _ => none

theorem InForce.registeredClaims {payload : Payload} {issuer audience : String} {now : ℚ}
    (inForce : InForce payload issuer audience now) :
    ∃ iat exp : ℤ, AuthClient.registeredClaims payload = some (issuer, audience, iat, exp) ∧
      (iat : ℚ) ≤ now ∧ now < exp := by
  obtain ⟨iat, issued, past⟩ := inForce.issued
  obtain ⟨exp, expires, future⟩ := inForce.unexpired
  obtain ⟨sub, subject⟩ := inForce.subject
  refine ⟨iat, exp, ?_, past, future⟩
  have identifier : isText (payload.lookup "jti") = true := by
    cases held : payload.lookup "jti" with
    | none => rfl
    | some jti =>
        obtain ⟨text, rfl⟩ := inForce.identifier jti held
        rfl
  unfold AuthClient.registeredClaims
  rw [inForce.issuer, inForce.audience, issued, expires, subject, inForce.unbounded]
  exact if_pos identifier

/-- The checked claims are those of the payload. -/
theorem lookup_of_registeredClaims {payload : Payload} {iss aud : String} {iat exp : ℤ}
    (read : registeredClaims payload = some (iss, aud, iat, exp)) :
    payload.lookup "iss" = some (.str iss) ∧ payload.lookup "aud" = some (.str aud) ∧
      payload.lookup "iat" = some (.int iat) ∧ payload.lookup "exp" = some (.int exp) := by
  unfold registeredClaims at read
  split at read
  · rename_i issuer audience issued expires _ _
    split at read
    · cases read
      exact ⟨issuer, audience, issued, expires⟩
    · cases read
  · cases read

/-- `jwt.decode` of a payload in which the claims have the types they should have. -/
def decodeRegistered (payload : Payload) (issuer audience : String) (now : ℚ) : Option Payload :=
  match registeredClaims payload with
  | some (iss, aud, iat, exp) =>
      if iss = issuer ∧ aud = audience ∧ (iat : ℚ) ≤ now ∧ now < (exp : ℚ) then some payload
      else none
  | none => none

theorem decodeRegistered_eq_some {payload decoded : Payload} {issuer audience : String} {now : ℚ}
    (same : decodeRegistered payload issuer audience now = some decoded) :
    decoded = payload ∧ ∃ iat exp : ℤ,
      registeredClaims payload = some (issuer, audience, iat, exp) ∧ (iat : ℚ) ≤ now ∧
        now < (exp : ℚ) := by
  unfold decodeRegistered at same
  split at same
  · rename_i iss aud iat exp read
    split at same
    · rename_i inForce
      obtain ⟨rfl, rfl, issued, unexpired⟩ := inForce
      exact ⟨(Option.some.inj same).symm, iat, exp, read, issued, unexpired⟩
    · cases same
  · cases same

theorem decodeRegistered_inForce (payload : Payload) (issuer audience : String) (now : ℚ)
    (inForce : InForce payload issuer audience now) :
    decodeRegistered payload issuer audience now = some payload := by
  obtain ⟨iat, exp, read, issued, unexpired⟩ := inForce.registeredClaims
  unfold decodeRegistered
  rw [read]
  exact if_pos ⟨rfl, rfl, issued, unexpired⟩

/-- The claims of a decoded payload are those asked for, and it is in force. -/
theorem lookup_of_decodeRegistered {payload decoded : Payload} {issuer audience : String} {now : ℚ}
    (same : decodeRegistered payload issuer audience now = some decoded) :
    payload.lookup "iss" = some (.str issuer) ∧ payload.lookup "aud" = some (.str audience) ∧
      ∃ iat exp : ℤ, payload.lookup "iat" = some (.int iat) ∧
        payload.lookup "exp" = some (.int exp) ∧ (iat : ℚ) ≤ now ∧ now < (exp : ℚ) := by
  obtain ⟨-, iat, exp, read, inForce⟩ := decodeRegistered_eq_some same
  obtain ⟨issuer, audience, issued, expires⟩ := lookup_of_registeredClaims read
  exact ⟨issuer, audience, iat, exp, issued, expires, inForce⟩

section Decoded

variable (payload : Payload) (issuer audience : String) (now : ℚ) (decoded : Payload)

theorem decodeRegistered_issuer (text : String)
    (same : decodeRegistered payload issuer audience now = some decoded)
    (held : payload.lookup "iss" = some (.str text)) : text = issuer := by
  cases held.symm.trans (lookup_of_decodeRegistered same).1
  rfl

theorem decodeRegistered_audience (text : String)
    (same : decodeRegistered payload issuer audience now = some decoded)
    (held : payload.lookup "aud" = some (.str text)) : text = audience := by
  cases held.symm.trans (lookup_of_decodeRegistered same).2.1
  rfl

theorem decodeRegistered_issued (iat : ℤ)
    (same : decodeRegistered payload issuer audience now = some decoded)
    (held : payload.lookup "iat" = some (.int iat)) : (iat : ℚ) ≤ now := by
  obtain ⟨-, -, other, exp, read, -, issued, -⟩ := lookup_of_decodeRegistered same
  cases held.symm.trans read
  exact issued

theorem decodeRegistered_unexpired (exp : ℤ)
    (same : decodeRegistered payload issuer audience now = some decoded)
    (held : payload.lookup "exp" = some (.int exp)) : now < (exp : ℚ) := by
  obtain ⟨-, -, iat, other, -, read, -, unexpired⟩ := lookup_of_decodeRegistered same
  cases held.symm.trans read
  exact unexpired

end Decoded

theorem int?_int (value : ℤ) : (PyJson.int value).int? = some value := rfl

/-- PyJWT on the payloads of the auth service, and Pydantic on texts without whitespace. -/
def registeredLibraries : StrictLibraries where
  decode := decodeRegistered
  decode_payload _ _ _ _ _ same := (decodeRegistered_eq_some same).1
  decode_inForce := decodeRegistered_inForce
  int value := value.int?
  int_int := int?_int
  strip text := text
  decode_issuer := decodeRegistered_issuer
  decode_audience := decodeRegistered_audience
  decode_issued := decodeRegistered_issued
  decode_unexpired := decodeRegistered_unexpired

/-- `jose` on the payloads of the auth service. -/
def registeredJose : Jose where
  validate payload _ _ dateNow :=
    match payload.lookup "exp" with
    | some (.int exp) => if exp ≤ epochSeconds dateNow then .error .jwtExpired else .ok payload
    | _ => .error (.claimValidationFailed "exp")
  validate_payload payload _ _ dateNow validated same := by
    split at same
    · split at same
      · cases same
      · cases same
        rfl
    · cases same
  validate_unexpired payload _ _ dateNow exp registered unexpired := by
    rw [registered.expires]
    exact if_neg (Int.not_le.mpr unexpired)
  validate_expired payload _ _ dateNow exp registered expired := by
    rw [registered.expires]
    exact if_pos expired

/-- An auth service that signs with RS256, and a client that knows it. -/
def sampleVerifiers : Verifiers where
  jose := registeredJose
  libraries := registeredLibraries
  signing := .rs256 ⟨"1234abcd", "modulus"⟩
  config := ⟨"https://auth.panakoes.com", "panakoes-api", 3600⟩
  validator := ⟨"https://auth.panakoes.com", "panakoes-api",
    fun kid => if kid = "1234abcd" then some "modulus" else none⟩

/-- The client can read the tokens of every user who has an id. -/
theorem knows_sample {sub : String} (named : sub ≠ "") : sampleVerifiers.Knows sub :=
  ⟨⟨⟨"1234abcd", "modulus"⟩, rfl, by decide, rfl⟩, rfl, rfl, named, by decide, by decide⟩

/-- The client accepts the step-up token of an admin as an access token. -/
theorem not_keepsClasses_stepUp :
    ¬ ∀ (verifiers : Verifiers) (token : Minted) (minted : ℕ) (now : ℚ≥0),
      (epochSeconds minted : ℚ) ≤ now → verifiers.KeepsClasses token minted now := by
  intro always
  have kept := always sampleVerifiers (.stepUp ⟨"u-1", "admin@panakoes.com", .admin⟩) 1000 2
    (by norm_num [epochSeconds])
  have accepted := (Verifiers.clientAccepts_iff sampleVerifiers
    (.stepUp ⟨"u-1", "admin@panakoes.com", .admin⟩) 1000 2).mpr
    ⟨knows_sample (by decide), by norm_num [epochSeconds],
      by norm_num [epochSeconds, Minted.lifetime, stepUpExpiresInSeconds]⟩
  exact (kept.narrow _ rfl).2 accepted

end Panakoes.AuthClient
