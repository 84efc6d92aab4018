import Panakoes.Auth.Jwt

/-! # The token validator

The validator decodes a token with PyJWT and reads the claims it knows with Pydantic. What
is used of the two libraries is a structure: their behaviour on values that the auth service
does not sign is left open.
-/

namespace Panakoes.AuthClient

open Auth (Payload)

/-- The token is in force for the issuer and the audience, and its registered claims have the
types they should have. -/
structure InForce (payload : Payload) (issuer audience : String) (now : ℚ) : Prop where
  issuer : payload.lookup "iss" = some (.str issuer)
  audience : payload.lookup "aud" = some (.str audience)
  issued : ∃ iat : ℤ, payload.lookup "iat" = some (.int iat) ∧ (iat : ℚ) ≤ now
  unexpired : ∃ exp : ℤ, payload.lookup "exp" = some (.int exp) ∧ now < exp
  subject : ∃ sub, payload.lookup "sub" = some (.str sub)
  identifier : ∀ jti, payload.lookup "jti" = some jti → ∃ text, jti = .str text
  unbounded : payload.lookup "nbf" = none

/-- PyJWT and Pydantic. `decode` is `jwt.decode` of a token with a valid signature: it returns
the payload, if it returns, and does so while the token is in force. `int` is how Pydantic
reads an integer, and `strip` strips a string. -/
structure Libraries where
  decode : Payload → String → String → ℚ → Option Payload
  decode_payload : ∀ payload issuer audience now decoded,
    decode payload issuer audience now = some decoded → decoded = payload
  decode_inForce : ∀ payload issuer audience now, InForce payload issuer audience now →
    decode payload issuer audience now = some payload
  int : PyJson → Option ℤ
  int_int : ∀ value, int (.int value) = some value
  strip : String → String

/-- `JwtClaims` of the clients. -/
structure JwtClaims where
  sub : String
  iss : String
  aud : String
  iat : ℤ
  exp : ℤ
  jti : Option String
  scopes : List String
  role : Option String
  mfaStepUpAt : Option ℤ

namespace Libraries

variable (libraries : Libraries)

/-- A string. -/
def text : PyJson → Option String
  | .str value => some (libraries.strip value)
  | _ => none

/-- A field `str` of at least one character. -/
def required (payload : Payload) (name : String) : Option String :=
  ((payload.lookup name).bind libraries.text).filter (· ≠ "")

/-- A field that is `None` when it is absent. -/
def optional {α : Type} (read : PyJson → Option α) (payload : Payload) (name : String) :
    Option (Option α) :=
  match payload.lookup name with
  | none | some .none => some none
  | some value => (read value).map some

/-- `scopes`. -/
def scopes (payload : Payload) : Option (List String) :=
  match payload.lookup "scopes" with
  | none => some []
  | some (.list items) => items.mapM libraries.text
  | some _ => none

/-- `JwtClaims.model_validate`. -/
def modelValidate (payload : Payload) : Option JwtClaims := do
  let sub ← libraries.required payload "sub"
  let iss ← libraries.required payload "iss"
  let aud ← libraries.required payload "aud"
  let iat ← (payload.lookup "iat").bind libraries.int
  let exp ← (payload.lookup "exp").bind libraries.int
  let jti ← optional libraries.text payload "jti"
  let scopes ← libraries.scopes payload
  let role ← optional libraries.text payload "role"
  let mfaStepUpAt ← optional libraries.int payload "mfa_step_up_at"
  return ⟨sub, iss, aud, iat, exp, jti, scopes, role, mfaStepUpAt⟩

/-- `JwtValidator.validate`, or `none` for a `JwtInvalidError`. -/
def validate (token : Payload) (issuer audience : String) (now : ℚ) : Option JwtClaims :=
  (libraries.decode token issuer audience now).bind libraries.modelValidate

variable {libraries} {payload : Payload} {name value : String}

/-- A string that is not blank is read. -/
theorem required_str (held : payload.lookup name = some (.str value))
    (readable : libraries.strip value ≠ "") :
    libraries.required payload name = some (libraries.strip value) := by
  unfold required
  rw [held]
  exact Option.filter_eq_some_iff.mpr ⟨rfl, decide_eq_true readable⟩

/-- A field that is absent is `None`. -/
theorem optional_absent {α : Type} {read : PyJson → Option α}
    (missing : payload.lookup name = none) : optional read payload name = some none := by
  unfold optional
  rw [missing]

theorem optional_str (held : payload.lookup name = some (.str value)) :
    optional libraries.text payload name = some (some (libraries.strip value)) := by
  unfold optional
  rw [held]
  rfl

theorem int_of_held {number : ℤ} (held : payload.lookup name = some (.int number)) :
    (payload.lookup name).bind libraries.int = some number := by
  rw [held]
  exact libraries.int_int number

end Libraries

end Panakoes.AuthClient
