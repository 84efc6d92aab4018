import Panakoes.Auth.Verify
import Panakoes.AuthClient.JwksValidator
import Panakoes.Foundation.Run
import Panakoes.Foundation.Table

/-! # The session a sign-in is bound to

Sign-ins run side by side. Each of them has Better-Auth make a session, then asks for the latest
session of the user, and then signs a token whose `jti` is the session it found. `/sign-out`
revokes the session that a token names, and `/validate` and `/me` ask whether it is still there.
-/

namespace Panakoes.Auth

/-- `kind` of the error. -/
def JwtVerifyError.kind : JwtVerifyError → String
  | .expired => "expired"
  | .invalidSignature => "invalid_signature"
  | .claimMismatch _ => "claim_mismatch"
  | .malformed => "malformed"

/-- A session of the user that is newer than all others of theirs is the latest one, whatever the
order of the rows. -/
theorem latestSessionForUser_eq {db : Database} {userId : String} {own : SessionRow}
    (member : own ∈ db.sessions) (theirs : own.userId = userId)
    (newest : ∀ row ∈ db.sessions, row.userId = userId → row ≠ own →
      row.createdAt < own.createdAt) :
    latestSessionForUser db userId = some own := by
  unfold latestSessionForUser
  have sorted := List.pairwise_insertionSort
    (fun first second : SessionRow => second.createdAt ≤ first.createdAt)
    (db.sessions.filter (·.userId = userId))
  have perm := List.perm_insertionSort
    (fun first second : SessionRow => second.createdAt ≤ first.createdAt)
    (db.sessions.filter (·.userId = userId))
  have held := perm.mem_iff.mpr (List.mem_filter.mpr ⟨member, decide_eq_true theirs⟩)
  cases order : (db.sessions.filter (·.userId = userId)).insertionSort
      fun first second => second.createdAt ≤ first.createdAt with
  | nil =>
      rw [order] at held
      exact absurd held List.not_mem_nil
  | cons first rest =>
      rw [order] at sorted perm held
      rw [List.head?_cons]
      by_contra differs
      obtain ⟨among, its⟩ := List.mem_filter.mp (perm.mem_iff.mp List.mem_cons_self)
      have older := newest first among (of_decide_eq_true its) fun same => differs (same ▸ rfl)
      have later := (List.mem_cons.mp held).resolve_left fun same => differs (same ▸ rfl)
      have newer := (List.pairwise_cons.mp sorted).1 own later
      omega

namespace SessionBinding

open Transition

/-! ## The routes -/

/-- A row of the session table. `revoked` is whether `revokedAt` is set. -/
structure Session where
  userId : String
  createdAt : ℤ
  expiresAt : ℕ
  revoked : Bool

/-- A row of the user table. -/
structure User where
  email : String
  name : String
  role : UserRole

/-- What the routes are created with, and the users there are. -/
structure Service where
  jose : Jose
  signing : Signing
  config : JwtConfig
  users : Table String User

/-- The user in an answer of `/validate` or `/me`. -/
structure UserBody where
  id : String
  email : String
  name : Option String
  role : UserRole

variable (service : Service)

/-- `verifyJwt`, with what the service was created with. -/
def Service.verify (token : Token) (dateNow : ℕ) : Except JwtVerifyError VerifiedJwt :=
  verifyJwt service.jose service.signing service.config token dateNow

/-- `POST /validate`: the user, or the `reason` of a `401`. -/
def validate (sessions : Table String Session) (token : Option Token) (dateNow : ℕ) :
    Except String UserBody :=
  match token with
  | none => .error "missing_bearer_token"
  | some token =>
      match service.verify token dateNow with
      | .error thrown => .error thrown.kind
      | .ok claims =>
          match sessions.lookup claims.jti with
          | none => .error "session_revoked"
          | some row =>
              if row.revoked then .error "session_revoked"
              else if row.expiresAt ≤ dateNow then .error "session_expired"
              else .ok ⟨claims.sub, claims.email, none, claims.role⟩

/-- `GET /me`: the user, or the `reason` of a `401` (its `error`, where no token came). The
session is joined with its user. -/
def me (sessions : Table String Session) (token : Option Token) (dateNow : ℕ) :
    Except String UserBody :=
  match token with
  | none => .error "missing_bearer_token"
  | some token =>
      match service.verify token dateNow with
      | .error thrown => .error thrown.kind
      | .ok claims =>
          match (sessions.lookup claims.jti).bind fun row =>
              (service.users.lookup row.userId).map fun user => (row, user) with
          | none => .error "session_revoked"
          | some (row, user) =>
              if row.revoked then .error "session_revoked"
              else if row.expiresAt ≤ dateNow then .error "session_expired"
              else .ok ⟨row.userId, user.email, some user.name, user.role⟩

/-! ## Sign-ins side by side -/

/-- Where a sign-in stands. -/
inductive Progress where
  | created
  | found (jti : String)
  | signed (token : Token)
  | sessionNotFound

/-- A sign-in: the user of `signInEmail`, and where it stands. `signedOut` says whether
`/sign-out` has answered its token with 204. -/
structure SignInRun where
  user : AuthUser
  progress : Progress
  signedOut : Bool

/-- The session table, and each sign-in under the id of the session that was made for it. -/
structure State where
  sessions : Table String Session
  signIns : Table String SignInRun

/-- Who acts next. -/
inductive Action where
  /-- `signInEmail` makes a session with the id, and returns the user. -/
  | create (id : String) (user : AuthUser) (createdAt : ℤ) (expiresAt : ℕ)
  /-- `latestSessionForUser`, with the rows of the table in the order they are read in. -/
  | lookup (id : String) (order : List String)
  /-- `roleForUser` and `signJwt`. -/
  | sign (id : String) (dateNow : ℕ)
  /-- `POST /sign-out` with the token of the sign-in. -/
  | signOut (id : String) (dateNow : ℕ)

/-- The tables as `latestSessionForUser` and `roleForUser` see them. -/
def database (sessions : Table String Session) (order : List String) : Database where
  sessions := order.filterMap fun id =>
    (sessions.lookup id).map fun row => ⟨id, row.userId, row.createdAt⟩
  roles := service.users.entries.map fun entry => (entry.1, entry.2.role)

/-- The sign-in goes on to `progress`. -/
def State.moveTo (state : State) (id : String) (run : SignInRun) (progress : Progress) : State :=
  { state with signIns := state.signIns.insert id { run with progress } }

/-- The session is marked as revoked, if it is there. -/
def revoke (sessions : Table String Session) (jti : String) : Table String Session :=
  match sessions.lookup jti with
  | none => sessions
  | some row => sessions.insert jti { row with revoked := true }

/-- One step. -/
def step (state : State) : Action → Option State
  | .create id user createdAt expiresAt =>
      -- the id is a new one, and the user is one that the session can refer to
      if state.sessions.lookup id = none ∧ state.signIns.lookup id = none ∧
          (service.users.lookup user.id).isSome then
        some {
          sessions := state.sessions.insert id ⟨user.id, createdAt, expiresAt, false⟩
          signIns := state.signIns.insert id ⟨user, .created, false⟩ }
      else none
  | .lookup id order =>
      match state.signIns.lookup id with
      | some run =>
          match run.progress with
          | .created =>
              if order.Perm state.sessions.keys then
                some (state.moveTo id run
                  (match latestSessionForUser (database service state.sessions order)
                      run.user.id with
                  | none => .sessionNotFound
                  | some sessionRow => .found sessionRow.id))
              else none
          | _ => none
      | none => none
  | .sign id dateNow =>
      match state.signIns.lookup id with
      | some run =>
          match run.progress with
          | .found jti =>
              let role := roleForUser (database service state.sessions []) run.user.id
              let claims : JwtClaims := ⟨run.user.id, run.user.email, role, jti, none⟩
              some (state.moveTo id run
                (.signed (service.signing.sign (signJwt claims service.config dateNow))))
          | _ => none
      | none => none
  | .signOut id dateNow =>
      match state.signIns.lookup id with
      | some run =>
          match run.progress with
          | .signed token =>
              match service.verify token dateNow with
              | .error _ => some state
              | .ok claims =>
                  some {
                    sessions := revoke state.sessions claims.jti
                    signIns := state.signIns.insert id { run with signedOut := true } }
          | _ => none
      | none => none

/-- A sign-in that is looked up and signed without a step between is one call of the route. -/
theorem signIn_eq_steps {state middle after : State} {id email password : String}
    {user : AuthUser} {out : Bool} {order : List String} {dateNow : ℕ}
    (held : state.signIns.lookup id = some ⟨user, .created, out⟩)
    (looked : step service state (.lookup id order) = some middle)
    (signed : step service middle (.sign id dateNow) = some after) :
    ∃ token, after.signIns.lookup id = some ⟨user, .signed token, out⟩ ∧
      signIn (fun _ _ => some user) (database service state.sessions order) service.signing
          service.config dateNow (some (email, password)) =
        .ok ⟨token, user, roleForUser (database service state.sessions order) user.id⟩ := by
  simp only [step, held] at looked
  split at looked
  case isFalse => cases looked
  case isTrue =>
    cases looked
    simp only [step, State.moveTo, AList.lookup_insert] at signed
    cases latest : latestSessionForUser (database service state.sessions order) user.id with
    | none =>
        rw [latest] at signed
        cases signed
    | some sessionRow =>
        rw [latest] at signed
        cases signed
        refine ⟨_, AList.lookup_insert _, ?_⟩
        simp only [signIn, latest]
        rfl

/-! ## What a token is for -/

/-- The token has not expired. -/
def Unexpired (token : Token) (dateNow : ℕ) : Prop :=
  ∃ exp : ℤ, token.payload.lookup "exp" = some (.int exp) ∧ epochSeconds dateNow < exp

/-- `/validate` and `/me` answer 200. -/
def Accepted (sessions : Table String Session) (token : Token) (dateNow : ℕ) : Prop :=
  (validate service sessions (some token) dateNow).isOk ∧
    (me service sessions (some token) dateNow).isOk

/-- `/validate` and `/me` answer 401. -/
def Rejected (sessions : Table String Session) (token : Token) (dateNow : ℕ) : Prop :=
  ¬ (validate service sessions (some token) dateNow).isOk ∧
    ¬ (me service sessions (some token) dateNow).isOk

/-- Each token names the session made for its own sign-in, no two of them name the same session,
and a token is accepted until it expires or is signed out. -/
structure Bound (state : State) : Prop where
  own : ∀ id run token, state.signIns.lookup id = some run → run.progress = .signed token →
    token.payload.lookup "jti" = some (.str id)
  distinct : ∀ first second run other token another, state.signIns.lookup first = some run →
    run.progress = .signed token → state.signIns.lookup second = some other →
    other.progress = .signed another → first ≠ second →
      token.payload.lookup "jti" ≠ another.payload.lookup "jti"
  rejected : ∀ id run token dateNow, state.signIns.lookup id = some run →
    run.progress = .signed token → run.signedOut = true →
      Rejected service state.sessions token dateNow
  accepted : ∀ id run token dateNow, state.signIns.lookup id = some run →
    run.progress = .signed token → run.signedOut = false → Unexpired token dateNow →
      Accepted service state.sessions token dateNow

/-- When a sign-in asks for the latest session, its own is newer than all others of the user, and
the token it signs does not outlive that session. -/
def OwnNewest (state : State) : Action → Prop
  | .lookup id _ => ∀ own ∈ state.sessions.lookup id, state.sessions.All fun other row =>
      row.userId = own.userId → other ≠ id → row.createdAt < own.createdAt
  | .sign id dateNow => ∀ own ∈ state.sessions.lookup id,
      (epochSeconds dateNow + service.config.expiresInSeconds) * 1000 ≤ own.expiresAt
  | _ => True

instance (state : State) : ∀ action, Decidable (OwnNewest service state action)
  | .lookup id _ => inferInstanceAs (Decidable (∀ own ∈ state.sessions.lookup id,
      state.sessions.All fun other row =>
        row.userId = own.userId → other ≠ id → row.createdAt < own.createdAt))
  | .sign id dateNow => inferInstanceAs (Decidable (∀ own ∈ state.sessions.lookup id,
      (epochSeconds dateNow + service.config.expiresInSeconds) * 1000 ≤ own.expiresAt))
  | .create .. => isTrue True.intro
  | .signOut .. => isTrue True.intro

/-! ## The invariant -/

/-- The token of a sign-in, for the session with the id. -/
def Service.mint (id : String) (user : AuthUser) (role : UserRole) (minted : ℕ) : Token :=
  service.signing.sign (signJwt ⟨user.id, user.email, role, id, none⟩ service.config minted)

/-- What a sign-in has found so far is its own session. -/
def Progress.Own (id : String) (user : AuthUser) (own : Session) : Progress → Prop
  | .found jti => jti = id
  | .signed token => ∃ role minted, token = service.mint id user role minted ∧
      (epochSeconds minted + service.config.expiresInSeconds) * 1000 ≤ own.expiresAt
  | _ => True

/-- A sign-in has its session, which is revoked once its token has been signed out. -/
structure HasSession (sessions : Table String Session) (id : String) (run : SignInRun)
    (own : Session) : Prop where
  held : sessions.lookup id = some own
  theirs : own.userId = run.user.id
  user : (service.users.lookup own.userId).isSome
  revoked : own.revoked = run.signedOut
  progress : run.progress.Own service id run.user own

/-- Every sign-in has its session. -/
def Invariant (state : State) : Prop :=
  state.signIns.All fun id run => ∃ own, HasSession service state.sessions id run own

variable {service} {state after : State} {id : String} {run : SignInRun} {own : Session}

/-- Tables that agree on the session of a sign-in have it alike. -/
theorem HasSession.congr {sessions other : Table String Session}
    (has : HasSession service sessions id run own) (same : other.lookup id = sessions.lookup id) :
    HasSession service other id run own :=
  { has with held := same.trans has.held }

/-- A sign-in that goes on keeps its session. -/
theorem Invariant.moveTo (invariant : Invariant service state)
    (held : state.signIns.lookup id = some run) {progress : Progress}
    (owned : ∀ own, HasSession service state.sessions id run own →
      progress.Own service id run.user own) :
    Invariant service (state.moveTo id run progress) := by
  refine Table.All.insert invariant ?_
  obtain ⟨own, has⟩ := invariant id run held
  exact ⟨own, has.held, has.theirs, has.user, has.revoked, owned own has⟩

theorem Invariant.create (invariant : Invariant service state) {user : AuthUser} {createdAt : ℤ}
    {expiresAt : ℕ} (taken : step service state (.create id user createdAt expiresAt) = some after) :
    Invariant service after := by
  simp only [step] at taken
  split at taken
  case isFalse => cases taken
  case isTrue fresh =>
    cases taken
    intro other run held
    rcases Table.lookup_insert_cases held with ⟨rfl, rfl⟩ | ⟨differs, held⟩
    · exact ⟨_, AList.lookup_insert _, rfl, fresh.2.2, rfl, True.intro⟩
    · obtain ⟨own, has⟩ := invariant other run held
      exact ⟨own, has.congr (AList.lookup_insert_ne differs)⟩

/-- The row of a session is among those that the latest is looked for. -/
theorem mem_database {sessions : Table String Session} {order : List String}
    (perm : order.Perm sessions.keys) {row : SessionRow} :
    row ∈ (database service sessions order).sessions ↔
      ∃ found, sessions.lookup row.id = some found ∧ row.userId = found.userId ∧
        row.createdAt = found.createdAt := by
  simp only [database, List.mem_filterMap, Option.map_eq_some_iff]
  constructor
  · rintro ⟨id, _, found, held, rfl⟩
    exact ⟨found, held, rfl, rfl⟩
  · rintro ⟨found, held, owner, created⟩
    refine ⟨row.id, perm.mem_iff.mpr ?_, found, held, ?_⟩
    · exact AList.mem_keys.mp (AList.lookup_isSome.mp (held ▸ rfl))
    · rw [← owner, ← created]

theorem Invariant.lookup (invariant : Invariant service state) {order : List String}
    (newest : OwnNewest service state (.lookup id order))
    (taken : step service state (.lookup id order) = some after) : Invariant service after := by
  simp only [step] at taken
  split at taken
  case h_2 => cases taken
  case h_1 run held =>
    split at taken
    case h_2 => cases taken
    case h_1 =>
      split at taken
      case isFalse => cases taken
      case isTrue perm =>
        cases taken
        refine invariant.moveTo held fun own has => ?_
        have latest : latestSessionForUser (database service state.sessions order) run.user.id =
            some ⟨id, own.userId, own.createdAt⟩ := by
          refine latestSessionForUser_eq ((mem_database perm).mpr ⟨own, has.held, rfl, rfl⟩)
            has.theirs fun row member theirs differs => ?_
          obtain ⟨found, among, owner, created⟩ := (mem_database perm).mp member
          rw [created]
          refine newest own has.held row.id found among ?_ fun same => differs ?_
          · rw [← owner, theirs, has.theirs]
          · rw [same, has.held] at among
            cases among
            cases row
            cases same
            cases owner
            cases created
            rfl
        rw [latest]
        rfl

theorem Invariant.sign (invariant : Invariant service state) {dateNow : ℕ}
    (within : OwnNewest service state (.sign id dateNow))
    (taken : step service state (.sign id dateNow) = some after) : Invariant service after := by
  simp only [step] at taken
  split at taken
  case h_2 => cases taken
  case h_1 run held =>
    split at taken
    case h_2 => cases taken
    case h_1 jti found =>
      cases taken
      refine invariant.moveTo held fun own has => ?_
      have same : jti = id := by
        have progress := has.progress
        rw [found] at progress
        exact progress
      subst same
      exact ⟨_, dateNow, rfl, within own has.held⟩

/-- What is read of the token of a sign-in. -/
theorem verify_mint {user : AuthUser} {role : UserRole} {minted dateNow : ℕ}
    {claims : VerifiedJwt}
    (verified : service.verify (service.mint id user role minted) dateNow = .ok claims) :
    claims.jti = id := by
  unfold Service.verify Service.mint at verified
  rw [verifyJwt_sign] at verified
  split at verified
  · cases verified
  · rename_i validated same
    cases service.jose.validate_payload _ _ _ _ _ same
    rw [readAccess_signJwt] at verified
    cases verified
    rfl

theorem Invariant.signOut (invariant : Invariant service state) {dateNow : ℕ}
    (taken : step service state (.signOut id dateNow) = some after) : Invariant service after := by
  simp only [step] at taken
  split at taken
  case h_2 => cases taken
  case h_1 run held =>
    split at taken
    case h_2 => cases taken
    case h_1 token signed =>
      split at taken
      case h_1 =>
        cases taken
        exact invariant
      case h_2 claims verified =>
        cases taken
        obtain ⟨own, has⟩ := invariant id run held
        have progress := has.progress
        rw [signed] at progress
        obtain ⟨role, minted, rfl, within⟩ := progress
        rw [verify_mint verified]
        have revoked : revoke state.sessions id =
            state.sessions.insert id { own with revoked := true } := by
          rw [revoke, has.held]
        rw [revoked]
        intro other entry entryHeld
        rcases Table.lookup_insert_cases entryHeld with ⟨rfl, rfl⟩ | ⟨differs, entryHeld⟩
        · refine ⟨_, AList.lookup_insert _, has.theirs, has.user, rfl, ?_⟩
          rw [signed]
          exact ⟨role, minted, rfl, within⟩
        · obtain ⟨found, kept⟩ := invariant other entry entryHeld
          exact ⟨found, kept.congr (AList.lookup_insert_ne differs)⟩

/-- Every step of which the condition holds leaves each sign-in its own session. -/
theorem Invariant.step {action : Action} (invariant : Invariant service state)
    (newest : OwnNewest service state action) (taken : step service state action = some after) :
    Invariant service after := by
  cases action with
  | create => exact invariant.create taken
  | lookup => exact invariant.lookup newest taken
  | sign => exact invariant.sign newest taken
  | signOut => exact invariant.signOut taken

/-- The sign-in that a run of the tables holds under an id has a token for that id. -/
theorem Invariant.signed (invariant : Invariant service state)
    (held : state.signIns.lookup id = some run) {token : Token}
    (signed : run.progress = .signed token) :
    ∃ own, HasSession service state.sessions id run own ∧ ∃ role minted,
      token = service.mint id run.user role minted ∧
        (epochSeconds minted + service.config.expiresInSeconds) * 1000 ≤ own.expiresAt := by
  obtain ⟨own, has⟩ := invariant id run held
  have progress := has.progress
  rw [signed] at progress
  exact ⟨own, has, progress⟩

section Minted

variable {user : AuthUser} {role : UserRole} {minted dateNow : ℕ}

theorem lookup_jti_mint :
    (service.mint id user role minted).payload.lookup "jti" = some (.str id) := by
  unfold Service.mint
  cases service.signing <;> simp [Signing.sign, signJwt, List.lookup_cons]

theorem unexpired_mint_iff : Unexpired (service.mint id user role minted) dateNow ↔
    epochSeconds dateNow < epochSeconds minted + service.config.expiresInSeconds := by
  have exp : (service.mint id user role minted).payload.lookup "exp" =
      some (.int (epochSeconds minted + service.config.expiresInSeconds)) := by
    unfold Service.mint
    cases service.signing <;> simp [Signing.sign, signJwt, List.lookup_cons]
  unfold Unexpired
  rw [exp]
  constructor
  · rintro ⟨_, same, unexpired⟩
    cases same
    exact unexpired
  · intro unexpired
    exact ⟨_, rfl, unexpired⟩

/-- A token is read as long as it has not expired. -/
theorem verify_mint_of_unexpired (unexpired : Unexpired (service.mint id user role minted) dateNow) :
    ∃ claims, service.verify (service.mint id user role minted) dateNow = .ok claims :=
  (verifyJwt_signJwt_iff _ _ _ _ _ _).mpr (unexpired_mint_iff.mp unexpired)

/-- The token of a session that is there, is not revoked and has not expired is accepted. -/
theorem accepted_mint {sessions : Table String Session} (held : sessions.lookup id = some own)
    (live : own.revoked = false) (account : (service.users.lookup own.userId).isSome)
    (unexpired : Unexpired (service.mint id user role minted) dateNow)
    (within : dateNow < own.expiresAt) :
    Accepted service sessions (service.mint id user role minted) dateNow := by
  obtain ⟨claims, verified⟩ := verify_mint_of_unexpired unexpired
  obtain ⟨account, found⟩ := Option.isSome_iff_exists.mp account
  have named := verify_mint verified
  have late : ¬ own.expiresAt ≤ dateNow := Nat.not_le.mpr within
  constructor
  · simp only [validate, verified]
    rw [named, held]
    simp [live, late, Except.isOk, Except.toBool]
  · simp only [me, verified]
    rw [named, held, Option.bind_some, found]
    simp [live, late, Except.isOk, Except.toBool]

/-- The token of a session that is revoked is rejected. -/
theorem rejected_mint {sessions : Table String Session} (held : sessions.lookup id = some own)
    (revoked : own.revoked = true) :
    Rejected service sessions (service.mint id user role minted) dateNow := by
  cases verified : service.verify (service.mint id user role minted) dateNow with
  | error thrown => simp [Rejected, validate, me, verified, Except.isOk, Except.toBool]
  | ok claims =>
      have named := verify_mint verified
      constructor
      · simp only [validate, verified]
        rw [named, held]
        simp [revoked, Except.isOk, Except.toBool]
      · simp only [me, verified]
        rw [named, held, Option.bind_some]
        cases service.users.lookup own.userId with
        | none => simp [Except.isOk, Except.toBool]
        | some user => simp [revoked, Except.isOk, Except.toBool]

end Minted

/-- Where every sign-in has its session, each token is for its own. -/
theorem Invariant.bound (invariant : Invariant service state) : Bound service state where
  own id run token held signed := by
    obtain ⟨own, has, role, minted, rfl, within⟩ := invariant.signed held signed
    exact lookup_jti_mint
  distinct first second run other token another held signed otherHeld otherSigned differs := by
    obtain ⟨_, _, _, _, rfl, _⟩ := invariant.signed held signed
    obtain ⟨_, _, _, _, rfl, _⟩ := invariant.signed otherHeld otherSigned
    rw [lookup_jti_mint, lookup_jti_mint]
    intro same
    cases same
    exact differs rfl
  rejected id run token dateNow held signed out := by
    obtain ⟨own, has, role, minted, rfl, within⟩ := invariant.signed held signed
    exact rejected_mint has.held (has.revoked.trans out)
  accepted id run token dateNow held signed stays unexpired := by
    obtain ⟨own, has, role, minted, rfl, within⟩ := invariant.signed held signed
    refine accepted_mint has.held (has.revoked.trans stays) has.user unexpired ?_
    have before := unexpired_mint_iff.mp unexpired
    unfold epochSeconds at before within
    omega

/-! ## The law -/

/-- **Sign-in binds its own session** in every run in which a sign-in, when it asks for the latest
session of its user, has made the newest one, and signs a token that does not outlive it. -/
theorem signIns_bound (service : Service) (sessions : Table String Session)
    (actions : List Action) (final : State)
    (meets : Meets (step service) (fun _ state action => OwnNewest service state action) []
      ⟨sessions, ∅⟩ actions)
    (run : execute (step service) ⟨sessions, ∅⟩ actions = some final) : Bound service final := by
  have initial : Invariant service ⟨sessions, ∅⟩ := Table.All.empty
  have kept : ∀ (past : List Action) before action after, Invariant service before →
      OwnNewest service before action → step service before action = some after →
      Invariant service after :=
    fun _ _ _ _ invariant newest taken => invariant.step newest taken
  have invariant : Invariant service final := execute_invariant initial kept meets run
  exact invariant.bound

/-- A service that signs with HS256, and a user. -/
def sampleService : Service where
  jose := AuthClient.registeredJose
  signing := .hs256 "secret"
  config := ⟨"https://auth.panakoes.com", "panakoes-api", 3600⟩
  users := AList.insert "u-1" ⟨"ada@panakoes.com", "ada", .user⟩ ∅

/-- The user as Better-Auth returns them. -/
def sampleUser : AuthUser := ⟨"u-1", "ada@panakoes.com"⟩

/-- Two sign-ins of the user, one after the other, and a sign-out with the first token. -/
def inTurn : List Action :=
  [.create "s-1" sampleUser 1000 3601000, .lookup "s-1" ["s-1"], .sign "s-1" 1500,
    .create "s-2" sampleUser 2000 3602000, .lookup "s-2" ["s-1", "s-2"], .sign "s-2" 2500,
    .signOut "s-1" 3000]

/-- The same sign-ins, the second of which is made before the first looks for its session. -/
def sideBySide : List Action :=
  [.create "s-1" sampleUser 1000 3601000, .create "s-2" sampleUser 2000 3602000,
    .lookup "s-1" ["s-1", "s-2"], .lookup "s-2" ["s-1", "s-2"], .sign "s-1" 2500,
    .sign "s-2" 2500]

/-- Sign-ins in turn are each bound to their own session. -/
theorem signIns_bound_inTurn :
    ∃ final, execute (step sampleService) ⟨∅, ∅⟩ inTurn = some final ∧
      Bound sampleService final :=
  ⟨_, rfl, signIns_bound sampleService ∅ inTurn _ (by decide) rfl⟩

/-- Two sign-ins side by side are bound to the session of the second. -/
theorem sideBySide_not_bound :
    ∃ final, execute (step sampleService) ⟨∅, ∅⟩ sideBySide = some final ∧
      ¬ Bound sampleService final := by
  refine ⟨_, rfl, fun bound => ?_⟩
  have own : some (PyJson.str "s-2") = some (PyJson.str "s-1") := bound.own "s-1" _ _ rfl rfl
  exact absurd (PyJson.str.inj (Option.some.inj own)) (by decide)

/-! ## Revocation -/

/-- The session that `/sign-out` marks in a step, if it is there. -/
def marked (service : Service) (state : State) : Action → List String
  | .signOut id dateNow =>
      match (state.signIns.lookup id).map SignInRun.progress with
      | some (.signed token) =>
          match service.verify token dateNow with
          | .ok claims => if (state.sessions.lookup claims.jti).isSome then [claims.jti] else []
          | .error _ => []
      | _ => []
  | .create .. | .lookup .. | .sign .. => []

/-- The sessions that the sign-outs of a run have marked. -/
def signedOut (service : Service) (state : State) (actions : List Action) : List String :=
  emitted (step service) (marked service) state actions

/-- The sessions that there were or that have been signed out are there, and one is revoked if and
only if it was revoked at the start or has been signed out since. -/
structure Marked (sessions : Table String Session) (gone : List String)
    (state : State) : Prop where
  present : ∀ jti, (sessions.lookup jti).isSome ∨ jti ∈ gone → (state.sessions.lookup jti).isSome
  revoked : ∀ jti row, state.sessions.lookup jti = some row →
    (row.revoked = true ↔ (∃ before ∈ sessions.lookup jti, before.revoked = true) ∨ jti ∈ gone)

variable {sessions : Table String Session} {gone : List String}

/-- A sign-out marks the session of its token, or no session is there. -/
theorem Marked.revoke (holds : Marked sessions gone state) (jti : String)
    (signIns : Table String SignInRun) :
    Marked sessions (gone ++ if (state.sessions.lookup jti).isSome then [jti] else [])
      ⟨revoke state.sessions jti, signIns⟩ := by
  unfold SessionBinding.revoke
  cases held : state.sessions.lookup jti with
  | none =>
      rw [Option.isSome_none, if_neg (by decide), List.append_nil]
      exact ⟨holds.present, holds.revoked⟩
  | some row =>
      rw [Option.isSome_some, if_pos rfl]
      constructor
      · intro other
        dsimp only
        by_cases same : other = jti
        · intro _
          rw [same, AList.lookup_insert]
          rfl
        · rw [AList.lookup_insert_ne same, List.mem_append, List.mem_singleton, or_iff_left same]
          exact holds.present other
      · intro other entry found
        rcases Table.lookup_insert_cases found with ⟨rfl, rfl⟩ | ⟨apart, before⟩
        · exact iff_of_true rfl (Or.inr (List.mem_append_right _ (List.mem_singleton_self _)))
        · rw [List.mem_append, List.mem_singleton, or_iff_left apart]
          exact holds.revoked other entry before

/-- A new session is not revoked. -/
theorem Marked.create (holds : Marked sessions gone state) {row : Session}
    (fresh : state.sessions.lookup id = none) (live : row.revoked = false)
    (signIns : Table String SignInRun) :
    Marked sessions gone ⟨state.sessions.insert id row, signIns⟩ := by
  have absent : ¬ ((sessions.lookup id).isSome ∨ id ∈ gone) := by
    intro there
    have present := holds.present id there
    rw [fresh] at present
    cases present
  constructor
  · intro other there
    dsimp only
    have apart : other ≠ id := fun same => absent (same ▸ there)
    rw [AList.lookup_insert_ne apart]
    exact holds.present other there
  · intro other entry found
    rcases Table.lookup_insert_cases found with ⟨rfl, rfl⟩ | ⟨-, before⟩
    · apply iff_of_false
      · rw [live]
        decide
      · rintro (⟨earlier, held, -⟩ | out)
        · exact absent (Or.inl (Option.isSome_of_mem held))
        · exact absent (Or.inr out)
    · exact holds.revoked other entry before

/-- What a step does to the sessions is to make one or to mark one. -/
theorem Marked.step (holds : Marked sessions gone state) {action : Action}
    (taken : step service state action = some after) :
    Marked sessions (gone ++ marked service state action) after := by
  have same : ∀ signIns, Marked sessions (gone ++ []) ⟨state.sessions, signIns⟩ := by
    intro signIns
    rw [List.append_nil]
    exact ⟨holds.present, holds.revoked⟩
  cases action with
  | create id user createdAt expiresAt =>
      obtain ⟨⟨fresh, -, -⟩, made⟩ := Option.ite_none_right_eq_some.mp taken
      cases made
      rw [marked, List.append_nil]
      exact holds.create fresh rfl _
  | lookup id order =>
      simp only [SessionBinding.step] at taken
      split at taken
      case h_2 => cases taken
      case h_1 =>
        split at taken
        case h_2 => cases taken
        case h_1 =>
          obtain ⟨-, moved⟩ := Option.ite_none_right_eq_some.mp taken
          cases moved
          exact same _
  | sign id dateNow =>
      simp only [SessionBinding.step] at taken
      split at taken
      case h_2 => cases taken
      case h_1 =>
        split at taken
        case h_2 => cases taken
        case h_1 =>
          cases taken
          exact same _
  | signOut id dateNow =>
      simp only [SessionBinding.step] at taken
      split at taken
      case h_2 => cases taken
      case h_1 run held =>
        split at taken
        case h_2 => cases taken
        case h_1 token signed =>
          simp only [marked, held, Option.map_some, signed]
          split at taken
          case h_1 thrown failed =>
            cases taken
            rw [failed]
            exact same _
          case h_2 claims verified =>
            cases taken
            rw [verified]
            exact holds.revoke claims.jti _

theorem marked_of_execute {actions : List Action} {final : State}
    (run : execute (step service) ⟨sessions, ∅⟩ actions = some final) :
    Marked sessions (signedOut service ⟨sessions, ∅⟩ actions) final := by
  have initial : Marked sessions [] ⟨sessions, ∅⟩ := by
    constructor
    · intro jti there
      exact there.resolve_right List.not_mem_nil
    · intro jti row held
      dsimp only at held
      rw [held]
      simp
  induction actions using List.reverseRecOn generalizing final with
  | nil =>
      cases run
      exact initial
  | append_singleton past action ih =>
      obtain ⟨before, reached, taken⟩ := (execute_concat_eq_some _).mp run
      rw [signedOut, emitted_concat _ _ reached]
      exact (ih reached).step taken

theorem Marked.revoked_eq_false_iff (holds : Marked sessions gone state) {jti : String} {row : Session}
    (held : state.sessions.lookup jti = some row) :
    row.revoked = false ↔
      (∀ before ∈ sessions.lookup jti, before.revoked = false) ∧ jti ∉ gone := by
  rw [← Bool.not_eq_true, holds.revoked jti row held, not_or, not_exists]
  simp only [not_and, Bool.not_eq_true]

/-- The two questions about the session of a token. -/
theorem isOk_checks {row : Session} {dateNow : ℕ} {user : UserBody} :
    (if row.revoked then Except.error "session_revoked"
      else if row.expiresAt ≤ dateNow then .error "session_expired"
      else .ok user : Except String UserBody).isOk ↔
        dateNow < row.expiresAt ∧ row.revoked = false := by
  cases row.revoked with
  | true => simp [Except.isOk, Except.toBool]
  | false =>
      by_cases late : row.expiresAt ≤ dateNow
      · simp [late, Except.isOk, Except.toBool]
      · simp [late, Nat.lt_of_not_le late, Except.isOk, Except.toBool]

/-- **A sign-out is final, and is one of its session only.** In every run, whichever sessions the
sign-ins found, `/validate` answers a token with 200 if and only if the token verifies, its session is
there, has not expired and was not revoked at the start, and no sign-out of the run has marked it; and
`/me` does if and only if the user of the session is there besides. -/
theorem accepted_iff_not_signedOut (service : Service) (sessions : Table String Session)
    (actions : List Action) (final : State)
    (run : execute (step service) ⟨sessions, ∅⟩ actions = some final) (token : Token) (dateNow : ℕ) :
    let live (claims : VerifiedJwt) (row : Session) : Prop :=
      service.verify token dateNow = .ok claims ∧ final.sessions.lookup claims.jti = some row ∧
        dateNow < row.expiresAt ∧
        (∀ before ∈ sessions.lookup claims.jti, before.revoked = false) ∧
        claims.jti ∉ signedOut service ⟨sessions, ∅⟩ actions
    ((validate service final.sessions (some token) dateNow).isOk ↔
        ∃ claims row, live claims row) ∧
      ((me service final.sessions (some token) dateNow).isOk ↔
        ∃ claims row, live claims row ∧ (service.users.lookup row.userId).isSome) := by
  intro live
  have marks := marked_of_execute run
  have open_ : ∀ claims row, live claims row ↔
      service.verify token dateNow = .ok claims ∧ final.sessions.lookup claims.jti = some row ∧
        dateNow < row.expiresAt ∧ row.revoked = false := by
    intro claims row
    refine and_congr_right fun _ => and_congr_right fun held => and_congr_right fun _ => ?_
    exact (marks.revoked_eq_false_iff held).symm
  simp only [open_]
  cases verified : service.verify token dateNow with
  | error thrown =>
      have nothing : (validate service final.sessions (some token) dateNow).isOk = false ∧
          (me service final.sessions (some token) dateNow).isOk = false := by
        simp only [validate, me, verified]
        exact ⟨rfl, rfl⟩
      rw [nothing.1, nothing.2]
      simp
  | ok claims =>
      simp only [validate, me, verified, Except.ok.injEq]
      cases held : final.sessions.lookup claims.jti with
      | none => simp [held, Except.isOk, Except.toBool]
      | some row =>
          have open_row : ∀ holds : Session → Prop, (∃ found other, claims = found ∧
              final.sessions.lookup found.jti = some other ∧ holds other) ↔ holds row := by
            intro holds
            constructor
            · rintro ⟨_, _, rfl, same, its⟩
              cases held.symm.trans same
              exact its
            · exact fun its => ⟨claims, row, rfl, held, its⟩
          simp only [and_assoc, open_row, Option.bind_some]
          constructor
          · exact isOk_checks
          · cases service.users.lookup row.userId with
            | none => simp [Except.isOk, Except.toBool]
            | some user =>
                rw [Option.map_some, Option.isSome_some]
                exact isOk_checks.trans (by simp)

/-- The first of two sign-ins that have found one session is signed out. -/
def sharedOut : List Action := sideBySide ++ [.signOut "s-1" 3000]

/-- The token of the second is then rejected, too. -/
theorem accepted_iff_not_signedOut_shared :
    ∃ final, execute (step sampleService) ⟨∅, ∅⟩ sharedOut = some final ∧
      ¬ (validate sampleService final.sessions
        (some (sampleService.mint "s-2" sampleUser .user 2500)) 3500).isOk := by
  refine ⟨_, rfl, fun accepted => ?_⟩
  obtain ⟨claims, row, verified, -, -, -, remains⟩ :=
    (accepted_iff_not_signedOut sampleService ∅ sharedOut _ rfl _ _).1.mp accepted
  rw [verify_mint verified] at remains
  exact remains (by decide +kernel)

end SessionBinding

end Panakoes.Auth
