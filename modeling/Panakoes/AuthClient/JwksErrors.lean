import Panakoes.AuthClient.JwksCache
import Panakoes.AuthClient.Validator
import Panakoes.Foundation.JsonText

/-! # What a validation raises

A validation by JWKS ends with claims or with an exception. PyJWT and Pydantic raise what they are
documented to raise, and all of it becomes a `JwtInvalidError`. What a refresh of the keys raises
is passed on as it is.
-/

namespace Panakoes.AuthClient.Jwks

open Auth (Payload)

/-- What `urlopen` and `read` do: they raise, or they bring a body, or one that is no text. -/
inductive Response where
  | raised (typeName : String)
  | body (text : Option String)

/-- `_default_fetcher`. -/
def defaultFetcher (read : JsonText.Numeral → Option ℚ) : Response → Except Raised PyJson
  | .raised typeName => .error (.other typeName)
  | .body none => .error (.other "UnicodeDecodeError")
  | .body (some text) =>
      match JsonText.loads read text with
      | .ok (.dict document) => .ok (.dict document)
      | .ok _ => .error .config
      | .error .jsonDecodeError => .error (.other "JSONDecodeError")
      | .error _ => .error (.other "ValueError")

/-- How `jwt.decode` fails. -/
inductive DecodeFailure where
  | expiredSignature
  | invalidToken
  deriving DecidableEq

/-- PyJWT, with the exceptions that it documents. `getUnverifiedHeader` returns a header or raises
an `InvalidTokenError`, `fromDict` returns a key or raises a `PyJWTError`, a `ValueError` or a
`TypeError`, and `decodeUnverified` returns a payload or raises. -/
structure PyJwt (Key : Type) where
  getUnverifiedHeader : String → Option (List (String × PyJson))
  fromDict : Jwk → Option Key
  decodeRs256 : String → Key → String → String → ℚ → Except DecodeFailure Payload
  decodeHs256 : String → String → String → String → ℚ → Except DecodeFailure Payload
  decodeUnverified : String → Option Payload

variable {Key : Type} (pyJwt : PyJwt Key) (libraries : Libraries)

/-- The claims of what `jwt.decode` has returned. -/
def readClaims (libraries : Libraries) (decoded : Except DecodeFailure Payload) :
    Except Raised JwtClaims :=
  match decoded with
  | .error .expiredSignature => .error (.invalid .tokenExpired)
  | .error .invalidToken => .error (.invalid .invalidToken)
  | .ok payload =>
      match libraries.modelValidate payload with
      | none => .error (.invalid .invalidClaims)
      | some claims => .ok claims

/-- `JwtValidator.validate`. -/
def validateHs256 (secret issuer audience token : String) (time : ℚ) : Except Raised JwtClaims :=
  readClaims libraries (pyJwt.decodeHs256 token secret issuer audience time)

/-- The part of `JwksJwtValidator.validate` behind the lookup of the key. -/
def verify (issuer audience token : String) (time : ℚ) (jwk : Jwk) : Except Raised JwtClaims :=
  match pyJwt.fromDict jwk with
  | none => .error (.invalid .invalidToken)
  | some key => readClaims libraries (pyJwt.decodeRs256 token key issuer audience time)

/-- The `kid` of a token, or why there is none. -/
def readKid (token : String) : Except Raised String :=
  match pyJwt.getUnverifiedHeader token with
  | none => .error (.invalid .invalidToken)
  | some header =>
      match PyJson.get header "kid" with
      | .str kid => if kid = "" then .error (.invalid .missingKid) else .ok kid
      | _ => .error (.invalid .missingKid)

/-- `JwksJwtValidator.validate`: the cache it leaves, and how it ends. -/
def validate (ttl : ℚ) (cache : JwksCache) (issuer audience token : String) (calls : Calls)
    (time : ℚ) : JwksCache × Except Raised JwtClaims :=
  match readKid pyJwt token with
  | .error error => (cache, .error error)
  | .ok kid =>
      let got := get ttl cache kid calls
      (got.cache, got.result.bind (verify pyJwt libraries issuer audience token time))

/-- The exception is a `JwtInvalidError`. -/
def Raised.IsInvalid (error : Raised) : Prop := ∃ reason, error = .invalid reason

/-- What is raised, if anything is, is a `JwtInvalidError`. -/
def OnlyInvalid {α : Type} (result : Except Raised α) : Prop :=
  ∀ error, result = .error error → error.IsInvalid

/-- A lookup whose refreshes all bring keys, or raise a `JwtInvalidError` themselves. -/
def Answers (cache : JwksCache) (kid : String) (calls : Calls) : Prop :=
  match cache.live calls.now with
  | some entry => entry.keysByKid.lookup kid = none → OnlyInvalid calls.second.keys
  | none =>
      match calls.first.keys with
      | .error error => error.IsInvalid
      | .ok keysByKid => keysByKid.lookup kid = none → OnlyInvalid calls.second.keys

/-- The token names no key, or the lookup of its key is answered. -/
def Answerable (cache : JwksCache) (token : String) (calls : Calls) : Prop :=
  ∀ kid, readKid pyJwt token = .ok kid → Answers cache kid calls

variable {pyJwt libraries} {ttl : ℚ} {cache : JwksCache} {kid : String} {calls : Calls}

theorem onlyInvalid_ok {α : Type} (value : α) : OnlyInvalid (.ok value) := by
  intro error raised
  cases raised

theorem onlyInvalid_error_iff {α : Type} (error : Raised) :
    OnlyInvalid (.error error : Except Raised α) ↔ error.IsInvalid := by
  refine ⟨fun only => only error rfl, fun invalid other raised => ?_⟩
  cases raised
  exact invalid

theorem onlyInvalid_readClaims (decoded : Except DecodeFailure Payload) :
    OnlyInvalid (readClaims libraries decoded) := by
  unfold readClaims
  split
  · exact (onlyInvalid_error_iff _).mpr ⟨_, rfl⟩
  · exact (onlyInvalid_error_iff _).mpr ⟨_, rfl⟩
  · split
    · exact (onlyInvalid_error_iff _).mpr ⟨_, rfl⟩
    · exact onlyInvalid_ok _

/-- The verification of a token raises nothing but a `JwtInvalidError`. -/
theorem onlyInvalid_verify (issuer audience token : String) (time : ℚ) (jwk : Jwk) :
    OnlyInvalid (verify pyJwt libraries issuer audience token time jwk) := by
  unfold verify
  split
  · exact (onlyInvalid_error_iff _).mpr ⟨_, rfl⟩
  · exact onlyInvalid_readClaims _

theorem onlyInvalid_bind_iff {α β : Type} {result : Except Raised α} {next : α → Except Raised β}
    (rest : ∀ value, OnlyInvalid (next value)) :
    OnlyInvalid (result.bind next) ↔ OnlyInvalid result := by
  cases result with
  | error error => rw [Except.bind, onlyInvalid_error_iff, onlyInvalid_error_iff]
  | ok value => exact iff_of_true (rest value) (onlyInvalid_ok value)

variable (pyJwt) in
theorem onlyInvalid_readKid (token : String) : OnlyInvalid (readKid pyJwt token) := by
  unfold readKid
  split
  · exact (onlyInvalid_error_iff _).mpr ⟨_, rfl⟩
  · split
    · split
      · exact (onlyInvalid_error_iff _).mpr ⟨_, rfl⟩
      · exact onlyInvalid_ok _
    · exact (onlyInvalid_error_iff _).mpr ⟨_, rfl⟩

/-- A forced refresh raises nothing but a `JwtInvalidError` if its fetch does not. -/
theorem onlyInvalid_getAfterMiss_iff (fetch : Fetch) :
    OnlyInvalid (getAfterMiss ttl cache kid fetch).result ↔ OnlyInvalid fetch.keys := by
  unfold getAfterMiss
  rcases refresh_cases ttl cache fetch with ⟨error, keys, failed⟩ | ⟨keysByKid, keys, brought⟩
  · rw [failed, keys, onlyInvalid_error_iff]
    exact (onlyInvalid_error_iff error).symm
  · rw [brought, keys]
    refine iff_of_true ?_ (onlyInvalid_ok _)
    dsimp only
    split
    · exact onlyInvalid_ok _
    · exact (onlyInvalid_error_iff _).mpr ⟨_, rfl⟩

/-- A lookup raises nothing but a `JwtInvalidError` if and only if it is answered. -/
theorem onlyInvalid_get_iff :
    OnlyInvalid (get ttl cache kid calls).result ↔ Answers cache kid calls := by
  unfold get Jwks.current Answers
  cases cache.live calls.now with
  | some entry =>
      dsimp only
      cases entry.keysByKid.lookup kid with
      | some jwk => simp [onlyInvalid_ok]
      | none =>
          rw [onlyInvalid_getAfterMiss_iff]
          simp
  | none =>
      rcases refresh_cases ttl cache calls.first with ⟨error, keys, failed⟩ |
        ⟨keysByKid, keys, brought⟩
      · rw [failed, keys]
        exact onlyInvalid_error_iff error
      · rw [brought, keys]
        dsimp only
        cases keysByKid.lookup kid with
        | some jwk => simp [onlyInvalid_ok]
        | none =>
            rw [onlyInvalid_getAfterMiss_iff]
            simp

/-- A validation raises nothing but a `JwtInvalidError` if and only if the lookup of the key is
answered. -/
theorem onlyInvalid_validate_iff (issuer audience token : String) (time : ℚ) :
    OnlyInvalid (validate pyJwt libraries ttl cache issuer audience token calls time).2 ↔
      Answerable pyJwt cache token calls := by
  have kidRead := onlyInvalid_readKid pyJwt token
  unfold validate Answerable
  cases named : readKid pyJwt token with
  | error error =>
      rw [named] at kidRead
      exact iff_of_true ((onlyInvalid_error_iff _).mpr ((onlyInvalid_error_iff _).mp kidRead))
        fun kid same => by cases same
  | ok kid =>
      dsimp only
      rw [onlyInvalid_bind_iff (onlyInvalid_verify _ _ _ _), onlyInvalid_get_iff]
      simp

end Panakoes.AuthClient.Jwks
