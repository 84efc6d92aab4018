import Mathlib.Data.Int.Notation
import Panakoes.Foundation.Run

/-! # The admin SPA's auth session

The store of `auth.svelte.ts` and the 401 path of `apiFetch`, as a step function. A call
that sends a request leaves it in flight; `settle` is the moment its promise is settled, in
any order, so that what other calls did in between is in the state it finds.
-/

namespace Panakoes.AdminSpa.AuthStore

open Transition

inductive Role where
  | admin
  | user
  deriving DecidableEq

structure SessionUser where
  id : String
  email : String
  role : Role
  deriving DecidableEq

/-- The persisted auth-session record. -/
structure AuthSession where
  token : String
  expiresAt : String
  user : SessionUser
  deriving DecidableEq

/-- What `localStorage` holds under `AUTH_STORAGE_KEY`, as `hydrate` reads it. -/
inductive Blob where
  | absent
  | corrupted
  | misshapen
  | session (session : AuthSession)
  deriving DecidableEq

/-- A request in flight, with what its continuation reads of the time it was sent. -/
inductive Request where
  /-- `signIn`'s request. It was sent after that many calls of `signOut`. -/
  | signIn (signOuts : Nat)
  | validateSession (session : AuthSession)
  /-- `apiFetch`'s request under the header that `bearerHeader` gave. -/
  | apiFetch (token : Option String)
  | signOut (token : String)
  deriving DecidableEq

/-- The token that a request carries. -/
def Request.token : Request → Option String
  | .signIn _ => none
  | .validateSession session => some session.token
  | .apiFetch token => token
  | .signOut token => some token

/-- The `user` of a `/me` answer, whose fields may each be missing. -/
structure ClaimedUser where
  id : Option String
  email : Option String
  role : Option String
  deriving DecidableEq

/-- A response body, as its two readers see it: `none` where it is not what they read. -/
structure Body where
  session : Option AuthSession
  user : Option ClaimedUser
  deriving DecidableEq

inductive Answer where
  /-- The fetch is rejected. -/
  | failed
  | response (status : Nat) (body : Body)
  deriving DecidableEq

structure State where
  /-- `currentSession.value`. -/
  value : Option AuthSession
  /-- `none` where there is no `localStorage`. -/
  storage : Option Blob
  inFlight : List Request
  /-- How often `signOut` has been called. -/
  signOuts : Nat
  /-- No `signIn` called after the last `signOut` has succeeded yet. -/
  signedOut : Bool
  deriving DecidableEq

inductive Action where
  | signIn
  | signOut
  | validateSession
  | apiFetch (now : ℤ)
  | isAuthenticated (now : ℤ)
  | settle (position : Nat) (answer : Answer) (now : ℤ)
  /-- The page is loaded again: the module is initialised and nothing is in flight. -/
  | reload (now : ℤ)

/-- `response.ok`. -/
def ok (status : Nat) : Bool := decide (200 ≤ status ∧ status ≤ 299)

/-! ## The store -/

section Clock

variable (parse : String → Option ℤ)

/-- `isExpired`; `parse` is `Date.parse`, which gives `NaN` for some strings. -/
def isExpired (now : ℤ) (expiresAt : String) : Bool :=
  match parse expiresAt with
  | none => true
  | some expiry => decide (expiry ≤ now)

/-- `hydrate`: the session, and what it leaves in the storage. -/
def hydrate (now : ℤ) : Option Blob → Option AuthSession × Option Blob
  | some (.session session) =>
      if isExpired parse now session.expiresAt then (none, some .absent)
      else (some session, some (.session session))
  | some .corrupted => (none, some .absent)
  | storage => (none, storage)

/-- The page as it boots on what the storage holds. -/
def boot (now : ℤ) (storage : Option Blob) : State where
  value := (hydrate parse now storage).1
  storage := (hydrate parse now storage).2
  inFlight := []
  signOuts := 0
  signedOut := false

namespace State

/-- `currentSession.value = session; persist(session)`. -/
def write (state : State) (session : Option AuthSession) : State :=
  { state with
    value := session
    storage := state.storage.map fun _ =>
      match session with
      | none => .absent
      | some session => .session session }

def send (state : State) (request : Request) : State :=
  { state with inFlight := state.inFlight ++ [request] }

/-- `signOut`: the revocation is sent only for a session there was. -/
def signOut (state : State) : State :=
  let cleared : State :=
    { state.write none with signOuts := state.signOuts + 1, signedOut := true }
  match state.value with
  | none => cleared
  | some prior => cleared.send (.signOut prior.token)

/-- What `isAuthenticated` leaves: an expired session is cleared. -/
def isAuthenticated (state : State) (now : ℤ) : State :=
  match state.value with
  | none => state
  | some session => if isExpired parse now session.expiresAt then state.write none else state

/-- `bearerHeader`, once `isAuthenticated` has cleared what is expired. -/
def bearerHeader (state : State) : Option String := state.value.map AuthSession.token

/-- `signIn`'s continuation. -/
def signInSettled (state : State) (signOuts : Nat) : Answer → State
  | .failed => state
  | .response status body =>
      match ok status, body.session with
      | true, some payload =>
          { state.write (some payload) with
            signedOut := state.signedOut && decide (signOuts ≠ state.signOuts) }
      | _, _ => state

end State

/-- The user that `validateSession` accepts of a `/me` answer. -/
def ClaimedUser.accepted (claimed : ClaimedUser) : Option SessionUser :=
  match claimed.id, claimed.email, claimed.role with
  | some id, some email, some "admin" => some ⟨id, email, .admin⟩
  | some id, some email, some "user" => some ⟨id, email, .user⟩
  | _, _, _ => none

/-- The session that a `/me` answer refreshes the validated one to. -/
def Body.refreshed (body : Body) (session : AuthSession) : Option AuthSession :=
  (body.user.bind ClaimedUser.accepted).map fun user =>
    { token := session.token, expiresAt := session.expiresAt, user := user }

namespace State

/-- `validateSession`'s continuation. -/
def validateSettled (state : State) (session : AuthSession) (now : ℤ) : Answer → State
  | .failed => state.isAuthenticated parse now
  | .response status body =>
      if status = 401 then state.signOut
      else if ok status = false then state.isAuthenticated parse now
      else
        match body.refreshed session with
        | some refreshed => state.write (some refreshed)
        | none => state

/-- `apiFetch`'s continuation. -/
def apiFetchSettled (state : State) : Answer → State
  | .failed => state
  | .response status _ => if status = 401 then state.signOut else state

/-- What a settled request leads to. -/
def settled (state : State) (answer : Answer) (now : ℤ) : Request → State
  | .signIn signOuts => state.signInSettled signOuts answer
  | .validateSession session => state.validateSettled parse session now answer
  | .apiFetch _ => state.apiFetchSettled answer
  | .signOut _ => state

end State

def step (state : State) : Action → Option State
  | .signIn => some (state.send (.signIn state.signOuts))
  | .signOut => some state.signOut
  | .validateSession =>
      match state.value with
      | none => some state
      | some session => some (state.send (.validateSession session))
  | .apiFetch now =>
      let cleared := state.isAuthenticated parse now
      some (cleared.send (.apiFetch cleared.bearerHeader))
  | .isAuthenticated now => some (state.isAuthenticated parse now)
  | .settle position answer now =>
      match state.inFlight[position]? with
      | none => none
      | some request =>
          let taken := { state with inFlight := state.inFlight.eraseIdx position }
          some (taken.settled parse answer now request)
  | .reload now =>
      some { state with
        value := (hydrate parse now state.storage).1
        storage := (hydrate parse now state.storage).2
        inFlight := [] }

/-! ## What the claim is about -/

namespace State

/-- A session that is held in memory or in the storage. -/
def Holds (state : State) (session : AuthSession) : Prop :=
  state.value = some session ∨ state.storage = some (.session session)

/-- Signed out, there is no session in memory and none in the storage. -/
def SignedOutIsNull (state : State) : Prop :=
  state.signedOut = true → state.value = none ∧ ∀ blob ∈ state.storage, blob = .absent

/-- No session, or one with this token. -/
def HeldUnder (state : State) (token : String) : Prop :=
  ∀ current ∈ state.value, current.token = token

instance (state : State) (token : String) : Decidable (state.HeldUnder token) :=
  inferInstanceAs (Decidable (∀ current ∈ state.value, _))

/-- A session with another token than this one is neither replaced nor refreshed nor cleared. -/
def Undisturbed (before : State) (token : String) (after : State) : Prop :=
  ∀ session, before.Holds session → session.token ≠ token →
    after.value = before.value ∧ after.storage = before.storage

end State

/-- A response to a request that was sent under one token leaves a session with another token
as it is. -/
def LeavesForeign (before : State) (action : Action) (after : State) : Prop :=
  match action with
  | .settle position (.response _ _) _ =>
      ∀ request ∈ before.inFlight[position]?, ∀ token ∈ request.token,
        before.Undisturbed token after
  | _ => True

/-- What has to hold of the state in which a response is handled: where the handler writes
the session, the page still holds the session that the request was sent under. -/
def Request.Timely (request : Request) (state : State) (status : Nat) (body : Body) (now : ℤ) :
    Prop :=
  match request with
  | .signIn signOuts =>
      ok status = true → body.session.isSome → state.signedOut = true →
        signOuts = state.signOuts
  | .validateSession session =>
      if status = 401 then state.HeldUnder session.token
      else if ok status = false then
        ∀ current ∈ state.value, isExpired parse now current.expiresAt = true →
          current.token = session.token
      else
        (body.refreshed session).isSome →
          state.signedOut = false ∧ state.HeldUnder session.token
  | .apiFetch (some token) => status = 401 → state.HeldUnder token
  | .apiFetch none | .signOut _ => True

/-- Every response is handled in time. -/
def Timely (state : State) : Action → Prop
  | .settle position (.response status body) now =>
      ∀ request ∈ state.inFlight[position]?, request.Timely parse state status body now
  | _ => True

/-! ## The invariant -/

/-- The session that a page loaded now would find. -/
def Blob.current : Blob → Option AuthSession
  | .session held => some held
  | .absent | .corrupted | .misshapen => none

namespace State

/-- The storage agrees with the memory, and signed out both are empty. -/
structure Consistent (state : State) : Prop where
  synced : ∀ blob ∈ state.storage, blob.current = state.value
  null : state.SignedOutIsNull

variable {parse} {state : State}

theorem hydrate_synced (now : ℤ) (storage : Option Blob) :
    ∀ blob ∈ (hydrate parse now storage).2, blob.current = (hydrate parse now storage).1 := by
  intro blob found
  cases storage with
  | none => cases found
  | some stored =>
      cases stored with
      | absent =>
          cases found
          rfl
      | corrupted =>
          cases found
          rfl
      | misshapen =>
          cases found
          rfl
      | session session =>
          simp only [hydrate] at found ⊢
          by_cases expired : isExpired parse now session.expiresAt
          · simp only [expired, ↓reduceIte, Option.mem_some_iff] at found ⊢
            subst found
            rfl
          · simp only [expired, Bool.false_eq_true, ↓reduceIte, Option.mem_some_iff] at found ⊢
            subst found
            rfl

theorem boot_consistent (now : ℤ) (storage : Option Blob) :
    (boot parse now storage).Consistent where
  synced := hydrate_synced now storage
  null := fun signedOut => absurd signedOut Bool.false_ne_true

theorem write_synced (session : Option AuthSession) :
    ∀ blob ∈ (state.write session).storage, blob.current = (state.write session).value := by
  intro blob found
  obtain ⟨before, -, written⟩ := Option.mem_map.mp found
  subst written
  cases session with
  | none => rfl
  | some session => rfl

theorem write_none_null :
    (state.write none).value = none ∧ ∀ blob ∈ (state.write none).storage, blob = .absent := by
  refine ⟨rfl, fun blob found => ?_⟩
  obtain ⟨before, -, written⟩ := Option.mem_map.mp found
  exact written.symm

theorem write_none_consistent : (state.write none).Consistent where
  synced := write_synced none
  null := fun _ => write_none_null

theorem signOut_consistent : state.signOut.Consistent := by
  unfold State.signOut
  split
  · exact ⟨write_synced none, fun _ => write_none_null⟩
  · exact ⟨write_synced none, fun _ => write_none_null⟩

theorem signOut_value : state.signOut.value = none := by
  unfold State.signOut
  split <;> rfl

/-- `isAuthenticated` clears an expired session and does nothing else. -/
theorem isAuthenticated_eq (now : ℤ) :
    state.isAuthenticated parse now = state ∨
      ∃ current ∈ state.value, isExpired parse now current.expiresAt = true ∧
        state.isAuthenticated parse now = state.write none := by
  unfold State.isAuthenticated
  split
  · exact Or.inl rfl
  · rename_i current held
    split
    · rename_i expired
      exact Or.inr ⟨current, held, expired, rfl⟩
    · exact Or.inl rfl

theorem Consistent.isAuthenticated (consistent : state.Consistent) (now : ℤ) :
    (state.isAuthenticated parse now).Consistent := by
  rcases @isAuthenticated_eq parse state now with same | ⟨current, held, expired, cleared⟩
  · rw [same]
    exact consistent
  · rw [cleared]
    exact write_none_consistent

/-- What is held is what is in memory. -/
theorem Consistent.value_of_holds (consistent : state.Consistent) {session : AuthSession}
    (holds : state.Holds session) : state.value = some session := by
  cases holds with
  | inl inMemory => exact inMemory
  | inr stored => exact (consistent.synced _ stored).symm

/-- Signed out, no session is held. -/
theorem Consistent.not_signedOut (consistent : state.Consistent) {session : AuthSession}
    (held : state.value = some session) : state.signedOut = false := by
  cases signedOut : state.signedOut with
  | false => rfl
  | true => exact absurd ((consistent.null signedOut).1.symm.trans held) (Option.some_ne_none _).symm

/-- Sending a request or taking one out of flight changes nothing about the session. -/
theorem Consistent.of_same {other : State} (consistent : state.Consistent)
    (value : other.value = state.value) (storage : other.storage = state.storage)
    (signedOut : other.signedOut = true → state.signedOut = true) : other.Consistent where
  synced := by
    rw [value, storage]
    exact consistent.synced
  null := by
    intro out
    rw [value, storage]
    exact consistent.null (signedOut out)

/-- A page that is loaded again finds the session it had, unless it has expired. -/
theorem Consistent.hydrate_value (consistent : state.Consistent) (now : ℤ) :
    (hydrate parse now state.storage).1 = none ∨
      (hydrate parse now state.storage).1 = state.value := by
  cases stored : state.storage with
  | none => exact Or.inl rfl
  | some blob =>
      cases blob with
      | absent => exact Or.inl rfl
      | corrupted => exact Or.inl rfl
      | misshapen => exact Or.inl rfl
      | session session =>
          have held : some session = state.value := consistent.synced _ stored
          simp only [hydrate]
          split
          · exact Or.inl rfl
          · exact Or.inr held

end State

/-! ## Steps -/

variable {parse} {state : State}

/-- Writing a session is right if a `signIn` called since the last `signOut` has succeeded. -/
theorem write_signedOutIsNull_iff (session : AuthSession) (signedOut : Bool) :
    ({ state.write (some session) with signedOut := signedOut } : State).SignedOutIsNull ↔
      signedOut = false := by
  constructor
  · intro null
    cases signedOut with
    | false => rfl
    | true => exact absurd (null rfl).1 (Option.some_ne_none _)
  · intro notOut out
    exact absurd (notOut.symm.trans out) Bool.false_ne_true

/-- Where a handler leaves nothing but a session with its own token, it disturbs no other if
and only if there was no other. -/
theorem undisturbed_iff_heldUnder (consistent : state.Consistent) {token : String} {after : State}
    (own : ∀ session ∈ after.value, session.token = token) :
    state.Undisturbed token after ↔ state.HeldUnder token := by
  constructor
  · intro undisturbed current held
    by_contra other
    have kept : after.value = state.value := (undisturbed current (Or.inl held) other).1
    exact other (own current (kept.trans held))
  · intro under session holds other
    exact absurd (under session (consistent.value_of_holds holds)) other

theorem undisturbed_refl (token : String) : state.Undisturbed token state :=
  fun _ _ _ => ⟨rfl, rfl⟩

theorem signOut_undisturbed_iff (consistent : state.Consistent) (token : String) :
    state.Undisturbed token state.signOut ↔ state.HeldUnder token := by
  apply undisturbed_iff_heldUnder consistent
  intro session held
  rw [State.signOut_value] at held
  cases held

theorem isAuthenticated_undisturbed_iff (consistent : state.Consistent) (token : String)
    (now : ℤ) :
    state.Undisturbed token (state.isAuthenticated parse now) ↔
      ∀ current ∈ state.value, isExpired parse now current.expiresAt = true →
        current.token = token := by
  unfold State.isAuthenticated
  split
  · rename_i empty
    apply iff_of_true (undisturbed_refl token)
    intro current held
    rw [empty] at held
    cases held
  · rename_i session held
    rw [held]
    simp only [Option.mem_some_iff, forall_eq']
    split
    · rename_i expired
      have cleared : ∀ other ∈ (state.write none).value, other.token = token := by
        intro other found
        cases found
      rw [undisturbed_iff_heldUnder consistent cleared, State.HeldUnder, held]
      simp only [Option.mem_some_iff, forall_eq', expired, forall_const]
    · rename_i valid
      exact iff_of_true (undisturbed_refl token) fun expired => absurd expired valid

/-- A response is handled as it should if and only if it is handled in time. -/
theorem settled_iff_timely (consistent : state.Consistent) (request : Request) (status : Nat)
    (body : Body) (now : ℤ) :
    ((state.settled parse (.response status body) now request).SignedOutIsNull ∧
      ∀ token ∈ request.token,
        state.Undisturbed token (state.settled parse (.response status body) now request)) ↔
      request.Timely parse state status body now := by
  cases request with
  | signOut token =>
      exact iff_of_true ⟨consistent.null, fun other _ => undisturbed_refl other⟩ trivial
  | signIn signOuts =>
      have untold : (Request.signIn signOuts).token = none := rfl
      simp only [untold, Option.not_mem_none, IsEmpty.forall_iff, implies_true, and_true,
        State.settled, State.signInSettled, Request.Timely]
      cases accepted : ok status with
      | false => exact iff_of_true consistent.null fun wrong => absurd wrong Bool.false_ne_true
      | true =>
          cases read : body.session with
          | none => exact iff_of_true consistent.null fun _ wrong => absurd wrong Bool.false_ne_true
          | some payload =>
              simp only [write_signedOutIsNull_iff, Option.isSome_some, forall_const,
                Bool.and_eq_false_imp, decide_eq_false_iff_not, not_not]
  | apiFetch token =>
      simp only [State.settled, State.apiFetchSettled]
      cases token with
      | none =>
          refine iff_of_true ⟨?_, fun _ wrong => absurd wrong (Option.not_mem_none _)⟩ trivial
          split
          · exact State.signOut_consistent.null
          · exact consistent.null
      | some token =>
          have sent : (Request.apiFetch (some token)).token = some token := rfl
          simp only [sent, Option.mem_some_iff, forall_eq', Request.Timely]
          split
          · rename_i unauthorized
            rw [signOut_undisturbed_iff consistent, and_iff_right State.signOut_consistent.null]
            exact (imp_iff_right unauthorized).symm
          · rename_i authorized
            exact iff_of_true ⟨consistent.null, undisturbed_refl token⟩
              fun wrong => absurd wrong authorized
  | validateSession session =>
      have sent : (Request.validateSession session).token = some session.token := rfl
      simp only [sent, Option.mem_some_iff, forall_eq', Request.Timely, State.settled,
        State.validateSettled]
      split
      · rw [signOut_undisturbed_iff consistent, and_iff_right State.signOut_consistent.null]
      · split
        · rw [isAuthenticated_undisturbed_iff consistent,
            and_iff_right (consistent.isAuthenticated now).null]
        · cases refreshed : body.refreshed session with
          | none =>
              exact iff_of_true ⟨consistent.null, undisturbed_refl _⟩
                fun wrong => absurd wrong Bool.false_ne_true
          | some fresh =>
              have own : ∀ written ∈ (state.write (some fresh)).value,
                  written.token = session.token := by
                intro written found
                cases found
                obtain ⟨user, -, rebuilt⟩ := Option.map_eq_some_iff.mp refreshed
                subst rebuilt
                rfl
              simp only [Option.isSome_some, forall_const]
              apply and_congr
              · exact write_signedOutIsNull_iff fresh state.signedOut
              · exact undisturbed_iff_heldUnder consistent own

theorem settled_synced (consistent : state.Consistent) (answer : Answer) (now : ℤ)
    (request : Request) :
    ∀ blob ∈ (state.settled parse answer now request).storage,
      blob.current = (state.settled parse answer now request).value := by
  cases request with
  | signOut token => exact consistent.synced
  | signIn signOuts =>
      simp only [State.settled]
      unfold State.signInSettled
      split
      · exact consistent.synced
      · split
        · rename_i payload _ _
          exact @State.write_synced state (some payload)
        · exact consistent.synced
  | apiFetch token =>
      simp only [State.settled]
      unfold State.apiFetchSettled
      split
      · exact consistent.synced
      · split
        · exact State.signOut_consistent.synced
        · exact consistent.synced
  | validateSession session =>
      simp only [State.settled]
      unfold State.validateSettled
      split
      · exact (consistent.isAuthenticated now).synced
      · split
        · exact State.signOut_consistent.synced
        · split
          · exact (consistent.isAuthenticated now).synced
          · split
            · exact State.write_synced _
            · exact consistent.synced

/-- A rejected fetch leaves the state consistent. -/
theorem failed_null (consistent : state.Consistent) (now : ℤ) (request : Request) :
    (state.settled parse .failed now request).SignedOutIsNull := by
  cases request with
  | validateSession session => exact (consistent.isAuthenticated now).null
  | signIn signOuts => exact consistent.null
  | apiFetch token => exact consistent.null
  | signOut token => exact consistent.null

theorem reload_consistent (consistent : state.Consistent) (now : ℤ) :
    ({ state with
        value := (hydrate parse now state.storage).1
        storage := (hydrate parse now state.storage).2
        inFlight := [] } : State).Consistent where
  synced := State.hydrate_synced now state.storage
  null := by
    intro signedOut
    obtain ⟨empty, absent⟩ := consistent.null signedOut
    cases stored : state.storage with
    | none => exact ⟨rfl, fun blob found => absurd found (Option.not_mem_none blob)⟩
    | some blob =>
        cases absent blob stored
        refine ⟨rfl, fun blob found => ?_⟩
        cases found
        rfl

/-- A step of which nothing is asked keeps the state consistent. -/
theorem step_consistent (consistent : state.Consistent) {action : Action} {after : State}
    (unasked : ∀ position status body now, action ≠ .settle position (.response status body) now)
    (taken : step parse state action = some after) : after.Consistent := by
  cases action with
  | signIn =>
      cases taken
      exact consistent.of_same rfl rfl id
  | signOut =>
      cases taken
      exact State.signOut_consistent
  | validateSession =>
      simp only [step] at taken
      split at taken
      · cases taken
        exact consistent
      · cases taken
        exact consistent.of_same rfl rfl id
  | apiFetch now =>
      cases taken
      exact (consistent.isAuthenticated now).of_same rfl rfl id
  | isAuthenticated now =>
      cases taken
      exact consistent.isAuthenticated now
  | reload now =>
      cases taken
      exact reload_consistent consistent now
  | settle position answer now =>
      cases answer with
      | response status body => exact absurd rfl (unasked position status body now)
      | failed =>
          simp only [step] at taken
          split at taken
          · cases taken
          · cases taken
            have same : State.Consistent { state with
                inFlight := state.inFlight.eraseIdx position } :=
              consistent.of_same rfl rfl id
            exact ⟨settled_synced same .failed now _, failed_null same now _⟩

/-- One step does what it should if and only if the response it handles is in time. -/
theorem step_iff_timely (consistent : state.Consistent) (action : Action) :
    ((∀ after ∈ step parse state action, after.SignedOutIsNull) ∧
      ∀ after ∈ step parse state action, LeavesForeign state action after) ↔
      Timely parse state action := by
  cases action with
  | settle position answer now =>
      cases answer with
      | failed =>
          refine iff_of_true ⟨fun after taken => ?_, fun _ _ => trivial⟩ trivial
          exact (step_consistent consistent (by simp) taken).null
      | response status body =>
          simp only [step, LeavesForeign, Timely]
          cases sent : state.inFlight[position]? with
          | none => exact iff_of_true ⟨by simp, by simp⟩ (by simp)
          | some request =>
              have same : State.Consistent { state with
                  inFlight := state.inFlight.eraseIdx position } :=
                consistent.of_same rfl rfl id
              simp only [Option.mem_some_iff, forall_eq']
              exact settled_iff_timely same request status body now
  | _ =>
      refine iff_of_true ⟨fun after taken => ?_, fun _ _ => trivial⟩ trivial
      exact (step_consistent consistent (by simp) taken).null

theorem step_synced (consistent : state.Consistent) {action : Action} {after : State}
    (taken : step parse state action = some after) :
    ∀ blob ∈ after.storage, blob.current = after.value := by
  by_cases asked : ∃ position status body now,
      action = .settle position (.response status body) now
  · obtain ⟨position, status, body, now, same⟩ := asked
    subst same
    simp only [step] at taken
    split at taken
    · cases taken
    · cases taken
      apply settled_synced
      exact consistent.of_same rfl rfl id
  · apply State.Consistent.synced
    refine step_consistent consistent (fun position status body now same => ?_) taken
    exact asked ⟨position, status, body, now, same⟩

variable (parse) in
/-- Over a run from any stored content, signed out means no session, and no response touches a
session with another token. -/
def SessionLaw (bootedAt : ℤ) (stored : Option Blob) (actions : List Action) : Prop :=
  (∀ taken, taken <+: actions →
    ∀ state ∈ execute (step parse) (boot parse bootedAt stored) taken, state.SignedOutIsNull) ∧
  Meets (step parse)
    (fun _ before action => ∀ after ∈ step parse before action, LeavesForeign before action after)
    [] (boot parse bootedAt stored) actions

/-- **The session stays with its token** if and only if every response is handled in time. -/
theorem session_law_iff (bootedAt : ℤ) (stored : Option Blob) (actions : List Action) :
    SessionLaw parse bootedAt stored actions ↔
      Meets (step parse) (fun _ state action => Timely parse state action) []
        (boot parse bootedAt stored) actions := by
  have start : (boot parse bootedAt stored).Consistent := State.boot_consistent bootedAt stored
  rw [SessionLaw, forall_reached_iff, and_iff_right start.null, Meets.and_iff]
  have kept : ∀ (_ : List Action) before action after, before.Consistent →
      Timely parse before action → step parse before action = some after → after.Consistent := by
    intro _ before action after consistent timely taken
    have fine := (step_iff_timely consistent action).mpr timely
    exact ⟨step_synced consistent taken, fine.1 after taken⟩
  exact Meets.congr_of_kept kept (fun _ _ action consistent => step_iff_timely consistent action)
    start

end Clock

/-! ## A boot-time validation that answers late -/

def ada : AuthSession := ⟨"jwt-ada", "2027-01-01T00:00:00Z", ⟨"u-1", "ada@panakoes.dev", .admin⟩⟩

def bob : AuthSession := ⟨"jwt-bob", "2027-01-01T00:00:00Z", ⟨"u-2", "bob@panakoes.dev", .user⟩⟩

/-- `/me` answers 200 once the user has signed out. -/
def lateRefresh : List Action :=
  [.validateSession, .signOut,
    .settle 0 (.response 200 ⟨none, some ⟨some "u-1", some "ada@panakoes.dev", some "admin"⟩⟩) 0]

/-- `/me` answers 401 for the first session once another user has signed in. -/
def lateUnauthorized : List Action :=
  [.validateSession, .signOut, .signIn, .settle 2 (.response 200 ⟨some bob, none⟩) 0,
    .settle 0 (.response 401 ⟨none, none⟩) 0]

/-- The late answer restores the session of a user who has signed out, or clears that of the next
one. -/
theorem late_answer_writes_session :
    ¬ SessionLaw (fun _ => some 1) 0 (some (.session ada)) lateRefresh ∧
      ¬ SessionLaw (fun _ => some 1) 0 (some (.session ada)) lateUnauthorized := by
  constructor
  · intro law
    have null := law.1 lateRefresh List.prefix_rfl _ rfl rfl
    exact absurd null.1 (Option.some_ne_none ada)
  · intro law
    have last := law.2.2 _ rfl |>.2 _ rfl |>.2 _ rfl |>.2 _ rfl |>.1 _ rfl
    have kept := last _ rfl _ rfl bob (Or.inl rfl) (by decide)
    exact absurd kept.1 (Option.some_ne_none bob).symm

end Panakoes.AdminSpa.AuthStore
