import Panakoes.AuthClient.JwksErrors
import Panakoes.AuthClient.JwksValidator
import Panakoes.Foundation.PyStrip

/-! # The WebSocket authorizer

The authorizer answers a connection with a policy: it allows one whose token is valid and denies
every other one. It catches the `JwtInvalidError` of a validation and no other exception, so that
it answers every connection for which the refreshes of the JWKS succeed.
-/

namespace Panakoes.WsAuthorizer

open AuthClient AuthClient.Jwks
open Auth (Payload)

/-- An event of API Gateway. Headers and query parameters that are null have no entries. -/
structure ConnectEvent where
  methodArn : String := "*"
  headers : List (String × PyJson)
  queryStringParameters : List (String × PyJson)

/-- `extract_token`. -/
def extractToken (event : ConnectEvent) : Option String :=
  match (PyJson.get event.headers "Authorization").orElse
      (PyJson.get event.headers "authorization") with
  | .str value =>
      match value.toList.dropPrefix? "Bearer ".toList with
      | some token => some (String.ofList (PyText.strip token))
      | none => none
  | _ =>
      match PyJson.get event.queryStringParameters "token" with
      | .str token => if token = "" then none else some token
      | _ => none

/-- `Effect`. -/
inductive Effect where
  | allow
  | deny
  deriving DecidableEq

/-- The policy of `build_response`, with the fields that differ. -/
structure Policy where
  principalId : String
  effect : Effect
  resource : String
  context : Option (List (String × String))
  deriving DecidableEq

/-- The default of `principal_id`. -/
def anonymous : String := "anonymous"

/-- `build_response`. -/
def buildResponse (authorized : Bool) (context : List (String × String)) (methodArn : String)
    (principalId : String) : Policy where
  principalId := principalId
  effect := if authorized then .allow else .deny
  resource := methodArn
  context := if authorized then some context else none

variable {Key : Type}

/-- `_build_context`. -/
def buildContext (pyJwt : PyJwt Key) (token validatedSub : String) (validatedRole : Option String) :
    List (String × String) :=
  let context := ("user_id", validatedSub) ::
    match validatedRole with
    | some role => if role = "" then [] else [("role", role)]
    | none => []
  match pyJwt.decodeUnverified token with
  | none => context
  | some unverified =>
      match PyJson.get unverified "tenant_id" with
      | .str tenantId => if tenantId = "" then context else context ++ [("tenant_id", tenantId)]
      | _ => context

/-- The variables that `from_env` reads. One that is not set is empty. -/
structure Environment where
  jwtPublicJwksUrl : String
  jwtSecret : String
  jwtIssuer : String
  jwtAudience : String

/-- A validator. -/
inductive Validator where
  | hs256 (secret issuer audience : String)
  | jwks (issuer audience : String)

/-- `from_env`, or `none` for a `JwtConfigError`. -/
def fromEnv (environment : Environment) : Option Validator :=
  if environment.jwtPublicJwksUrl ≠ "" then
    if environment.jwtIssuer = "" ∨ environment.jwtAudience = "" then none
    else some (.jwks environment.jwtIssuer environment.jwtAudience)
  else if environment.jwtSecret = "" ∨ environment.jwtIssuer = "" ∨ environment.jwtAudience = "" then
    none
  else some (.hs256 environment.jwtSecret environment.jwtIssuer environment.jwtAudience)

/-- What a request meets: what the cache meets, and the time. -/
structure Request where
  calls : Calls
  time : ℚ

/-- `validate` of the validator. -/
def Validator.validate (pyJwt : PyJwt Key) (libraries : Libraries) (cache : JwksCache)
    (token : String) (request : Request) : Validator → JwksCache × Except Raised JwtClaims
  | .hs256 secret issuer audience =>
      (cache, validateHs256 pyJwt libraries secret issuer audience token request.time)
  | .jwks issuer audience =>
      Jwks.validate pyJwt libraries defaultTtl cache issuer audience token request.calls
        request.time

/-- `lambda_handler`: the cache it leaves, and how it ends. -/
def lambdaHandler (pyJwt : PyJwt Key) (libraries : Libraries) (environment : Environment)
    (cache : JwksCache) (event : ConnectEvent) (request : Request) :
    JwksCache × Except Raised Policy :=
  match extractToken event with
  | none => (cache, .ok (buildResponse false [] event.methodArn anonymous))
  | some token =>
      match fromEnv environment with
      | none => (cache, .ok (buildResponse false [] event.methodArn anonymous))
      | some validator =>
          match validator.validate pyJwt libraries cache token request with
          | (cache, .error (.invalid _)) =>
              (cache, .ok (buildResponse false [] event.methodArn anonymous))
          | (cache, .error error) => (cache, .error error)
          | (cache, .ok claims) =>
              (cache, .ok (buildResponse true (buildContext pyJwt token claims.sub claims.role)
                event.methodArn claims.sub))

/-- The errors of a token are mapped: the validation ends with claims or with a
`JwtInvalidError`, and the authorizer answers every connection with the token. -/
structure ErrorsMapped (pyJwt : PyJwt Key) (libraries : Libraries) (environment : Environment)
    (cache : JwksCache) (token : String) (request : Request) : Prop where
  validated : ∀ validator ∈ fromEnv environment,
    OnlyInvalid (validator.validate pyJwt libraries cache token request).2
  answered : ∀ event, extractToken event = some token →
    ∃ policy, (lambdaHandler pyJwt libraries environment cache event request).2 = .ok policy

variable {pyJwt : PyJwt Key} {libraries : Libraries} {environment : Environment}
  {cache : JwksCache} {token : String} {request : Request}

/-- The authorizer answers a connection if and only if the validation of its token raises nothing
but a `JwtInvalidError`. -/
theorem lambdaHandler_answers_iff (event : ConnectEvent) :
    (∃ policy, (lambdaHandler pyJwt libraries environment cache event request).2 = .ok policy) ↔
      ∀ token ∈ extractToken event, ∀ validator ∈ fromEnv environment,
        OnlyInvalid (validator.validate pyJwt libraries cache token request).2 := by
  unfold lambdaHandler
  cases extractToken event with
  | none => simp
  | some token =>
      dsimp only
      cases fromEnv environment with
      | none => simp
      | some validator =>
          simp only [Option.mem_some_iff, forall_eq']
          cases ended : validator.validate pyJwt libraries cache token request with
          | mk cache result =>
              dsimp only
              cases result with
              | ok claims => exact iff_of_true ⟨_, rfl⟩ (onlyInvalid_ok _)
              | error error =>
                  rw [onlyInvalid_error_iff]
                  cases error with
                  | invalid reason => exact iff_of_true ⟨_, rfl⟩ ⟨reason, rfl⟩
                  | config | other =>
                      refine iff_of_false ?_ ?_
                      · rintro ⟨policy, same⟩
                        cases same
                      · rintro ⟨reason, same⟩
                        cases same

/-- **Errors are mapped.** For every token and every behaviour of the fetcher, a service that
validates by JWKS maps the errors if and only if the token names no key, or the lookup of its key
is answered. -/
theorem errorsMapped_iff (pyJwt : PyJwt Key) (libraries : Libraries) {environment : Environment}
    {issuer audience : String} (configured : fromEnv environment = some (.jwks issuer audience))
    (cache : JwksCache) (token : String) (request : Request) :
    ErrorsMapped pyJwt libraries environment cache token request ↔
      Answerable pyJwt cache token request.calls := by
  have validated : (∀ validator ∈ fromEnv environment,
      OnlyInvalid (validator.validate pyJwt libraries cache token request).2) ↔
        Answerable pyJwt cache token request.calls := by
    rw [configured]
    simp only [Option.mem_some_iff, forall_eq']
    exact onlyInvalid_validate_iff issuer audience token request.time
  constructor
  · intro mapped
    exact validated.mp mapped.validated
  · intro answerable
    refine ⟨validated.mpr answerable, fun event carries => ?_⟩
    refine (lambdaHandler_answers_iff event).mpr fun other same => ?_
    rw [carries] at same
    cases same
    exact validated.mpr answerable

/-! ## An endpoint that cannot be reached -/

/-- A token with the header `{"alg":"RS256","kid":"k"}` and no valid signature. -/
def sampleToken : String := "eyJhbGciOiJSUzI1NiIsImtpZCI6ImsifQ.e30.c2ln"

/-- PyJWT on that token, other texts being no tokens, and on keys without a modulus. -/
def samplePyJwt : PyJwt Unit where
  getUnverifiedHeader token :=
    if token = sampleToken then some [("alg", .str "RS256"), ("kid", .str "k")] else none
  fromDict _ := none
  decodeRs256 _ _ _ _ _ := .error .invalidToken
  decodeHs256 _ _ _ _ _ := .error .invalidToken
  decodeUnverified token := if token = sampleToken then some [] else none

def sampleEnvironment : Environment := ⟨"https://auth/jwks.json", "", "https://auth", "api"⟩

/-- A request whose fetches end alike. -/
def sampleRequest (read : JsonText.Numeral → Option ℚ) (response : Response) : Request :=
  ⟨⟨0, ⟨defaultFetcher read response, 0⟩, ⟨defaultFetcher read response, 0⟩⟩, 0⟩

/-- The theorem on a JWKS document with a key. -/
theorem errorsMapped_sample :
    ErrorsMapped samplePyJwt registeredLibraries.toLibraries sampleEnvironment JwksCache.start
      sampleToken ⟨⟨0, ⟨.ok sampleDocument, 0⟩, ⟨.ok sampleDocument, 0⟩⟩, 0⟩ := by
  refine (@errorsMapped_iff Unit samplePyJwt _ sampleEnvironment "https://auth" "api" rfl _ _ _).mpr ?_
  intro kid named
  cases named
  intro missing
  cases missing

/-- The endpoint cannot be reached: the `URLError` gets through the validator and the
authorizer. -/
theorem unreachable_not_errorsMapped :
    ¬ ∀ (pyJwt : PyJwt Unit) (libraries : Libraries) (environment : Environment)
      (issuer audience : String), fromEnv environment = some (.jwks issuer audience) →
        ∀ (cache : JwksCache) (token : String) (request : Request),
          ErrorsMapped pyJwt libraries environment cache token request := by
  intro always
  have mapped := always samplePyJwt registeredLibraries.toLibraries sampleEnvironment
    "https://auth" "api" rfl JwksCache.start sampleToken
    (sampleRequest (fun _ => none) (.raised "URLError"))
  have carries : extractToken ⟨"*", [], [("token", .str sampleToken)]⟩ = some sampleToken := by
    decide +kernel
  obtain ⟨policy, answered⟩ := mapped.answered _ carries
  have escapes : (lambdaHandler samplePyJwt registeredLibraries.toLibraries sampleEnvironment
      JwksCache.start ⟨"*", [], [("token", .str sampleToken)]⟩
      (sampleRequest (fun _ => none) (.raised "URLError"))).2 = .error (.other "URLError") := rfl
  rw [escapes] at answered
  cases answered

end Panakoes.WsAuthorizer
