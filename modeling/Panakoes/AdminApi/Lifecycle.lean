import Mathlib.Algebra.Order.Floor.Defs
import Mathlib.Data.Rat.Floor
import Panakoes.Foundation.PyJson
import Panakoes.Foundation.Run
import Panakoes.Foundation.Table

/-! # Lifecycle operations of the admin API

Every dangerous operation goes through `execute_lifecycle`: look the idempotency key
up, compare the typed confirmation, write an intent row, write a pending row, run the
operation's handler, finalize the row, and write an outcome row. Each call to DynamoDB
and the handler may succeed, fail or be cancelled, and a call that fails or is cancelled
may have been applied. A request is suspended before each call, so requests of several
processes interleave there. An envelope is stored as JSON and read back as it is.
-/

namespace Panakoes.AdminApi

/-- The operations the routes offer. -/
inductive Operation where
  | terminateSession
  | forceFailIngestion
  | blockUserSessions
  | blockTenant
  | revokeApiKey
  | killStreamingSession
  | killBatchJob
  | forceBillingRecompute
  deriving DecidableEq

/-- `op_name`. -/
def Operation.name : Operation → String
  | .terminateSession => "terminate-session"
  | .forceFailIngestion => "force-fail-ingestion"
  | .blockUserSessions => "block-user-sessions"
  | .blockTenant => "block-tenant"
  | .revokeApiKey => "revoke-api-key"
  | .killStreamingSession => "kill-streaming-session"
  | .killBatchJob => "kill-batch-job"
  | .forceBillingRecompute => "force-billing-recompute"

/-- The key of `target`. -/
def Operation.targetKey : Operation → String
  | .terminateSession | .killStreamingSession => "session_id"
  | .forceFailIngestion => "ingestion_id"
  | .blockUserSessions => "user_id"
  | .blockTenant | .forceBillingRecompute => "tenant_id"
  | .revokeApiKey => "api_key_id"
  | .killBatchJob => "job_id"

/-- The words of the confirmation before the target. -/
def Operation.confirmationWords : Operation → String
  | .terminateSession => "TERMINATE "
  | .forceFailIngestion => "FAIL "
  | .blockUserSessions => "BLOCK USER "
  | .blockTenant => "BLOCK TENANT "
  | .revokeApiKey => "REVOKE KEY "
  | .killStreamingSession => "KILL STREAM "
  | .killBatchJob => "KILL JOB "
  | .forceBillingRecompute => "RECOMPUTE BILLING "

/-- `LifecycleStatus`. -/
inductive LifecycleStatus where
  | pending
  | running
  | succeeded
  | failed
  | cancelled
  deriving DecidableEq

/-- `LifecycleRequest`. -/
structure LifecycleRequest where
  idempotencyKey : String
  confirmation : String
  params : List (String × PyJson)

/-- `LifecycleResponse`. -/
structure LifecycleResponse where
  idempotencyKey : String
  status : LifecycleStatus
  result : Option (List (String × PyJson))
  errorMessage : Option String
  auditRequestId : String
  startedAt : ℚ
  finishedAt : Option ℚ

/-- A request of an admin to a lifecycle route. -/
structure Submission where
  operation : Operation
  targetId : String
  actorId : String
  request : LifecycleRequest

/-- `expected_confirmation`. -/
def Submission.expectedConfirmation (submission : Submission) : String :=
  submission.operation.confirmationWords ++ submission.targetId

/-- `target`. -/
def Submission.target (submission : Submission) : String × String :=
  (submission.operation.targetKey, submission.targetId)

/-- The idempotency key. -/
def Submission.key (submission : Submission) : String := submission.request.idempotencyKey

/-- The typed confirmation is the expected one. -/
def Submission.Confirmed (submission : Submission) : Prop :=
  submission.request.confirmation = submission.expectedConfirmation

instance (submission : Submission) : Decidable submission.Confirmed :=
  inferInstanceAs (Decidable (_ = _))

/-! ## The tables -/

/-- An item of the lifecycle-state table. -/
structure StateRow where
  responseEnvelope : Option LifecycleResponse
  expiresAt : Option ℤ
  auditRequestId : Option String
  status : LifecycleStatus

/-- An item of the audit log. Of `reason` the text of the value is written. -/
structure AuditRow where
  pk : String
  sk : String
  actorId : String
  action : String
  tier3Action : String
  sourceService : String
  requestId : String
  timestamp : String
  outcome : String
  target : String × String
  reason : Option PyJson
  errorMessage : Option String

/-- How a handler ends: an exception as `"{type}: {message}"`, or the cancellation of its
task, which is not an `Exception`. -/
inductive HandlerResult where
  | returned (result : List (String × PyJson))
  | raised (error : String)
  | cancelled

/-- What requests have done, in order: rows written to the audit log, and handlers run. -/
inductive Effect where
  | audit (row : AuditRow)
  | handler (submission : Submission) (result : HandlerResult)

/-- The lifecycle-state table and what has been done. -/
structure Store where
  rows : Table String StateRow
  log : List Effect

/-- `DEFAULT_TTL_SECONDS`. -/
def defaultTtlSeconds : ℤ := 24 * 60 * 60

/-- A reading of the clock: the time and its `isoformat`. -/
structure Clock where
  time : ℚ
  iso : String

namespace Store

/-- `LifecycleStateStore.get`: a row without an envelope counts as absent. -/
def get (store : Store) (key : String) : Option LifecycleResponse :=
  (store.rows.lookup key).bind StateRow.responseEnvelope

/-- The envelope that `put_pending` seeds. -/
def seed (key auditRequestId : String) (now : ℚ) : LifecycleResponse where
  idempotencyKey := key
  status := .pending
  result := none
  errorMessage := none
  auditRequestId := auditRequestId
  startedAt := now
  finishedAt := none

/-- The item that `put_pending` puts. -/
def pendingRow (key auditRequestId : String) (now : ℚ) : StateRow where
  responseEnvelope := some (seed key auditRequestId now)
  expiresAt := some (⌊now⌋ + defaultTtlSeconds)
  auditRequestId := some auditRequestId
  status := .pending

/-- `put_pending`. -/
def putPending (store : Store) (key auditRequestId : String) (now : ℚ) : Store :=
  { store with rows := store.rows.insert key (pendingRow key auditRequestId now) }

/-- The update of `update_terminal`. -/
def updateTerminal (store : Store) (envelope : LifecycleResponse) : Store :=
  let row :=
    match store.rows.lookup envelope.idempotencyKey with
    | some row => { row with responseEnvelope := some envelope, status := envelope.status }
    | none => ⟨some envelope, none, none, envelope.status⟩
  { store with rows := store.rows.insert envelope.idempotencyKey row }

/-- Something has been done. -/
def record (store : Store) (effect : Effect) : Store :=
  { store with log := store.log ++ [effect] }

variable {store : Store} {key other : String} {envelope found : LifecycleResponse}

/-- What is found after a row has been put. -/
theorem get_putPending (auditRequestId : String) (now : ℚ) :
    (store.putPending key auditRequestId now).get other =
      if other = key then some (seed key auditRequestId now) else store.get other := by
  unfold get putPending
  by_cases same : other = key
  · rw [if_pos same, same, AList.lookup_insert]
    rfl
  · rw [if_neg same, AList.lookup_insert_ne same]

/-- What is found after a row has been finalized. -/
theorem get_updateTerminal :
    (store.updateTerminal envelope).get other =
      if other = envelope.idempotencyKey then some envelope else store.get other := by
  unfold get updateTerminal
  by_cases same : other = envelope.idempotencyKey
  · rw [if_pos same, same, AList.lookup_insert]
    cases store.rows.lookup envelope.idempotencyKey <;> rfl
  · rw [if_neg same, AList.lookup_insert_ne same]

end Store

/-- `source_service`. -/
def sourceService : String := "admin-api"

/-- The intent row. -/
def Submission.intentRow (submission : Submission) (requestId : String) (now : Clock) :
    AuditRow where
  pk := s!"AUDIT#{sourceService}#{submission.actorId}"
  sk := s!"{now.iso}#{requestId}"
  actorId := submission.actorId
  action := s!"tier3.{submission.operation.name}.intent"
  tier3Action := submission.operation.name
  sourceService := sourceService
  requestId := requestId
  timestamp := now.iso
  outcome := "pending"
  target := submission.target
  reason := some (PyJson.getD submission.request.params "reason" (.str ""))
  errorMessage := none

/-- The outcome row. -/
def Submission.outcomeRow (submission : Submission) (requestId : String)
    (failureMessage : Option String) (now : Clock) : AuditRow where
  pk := s!"AUDIT#{sourceService}#{submission.actorId}"
  sk := s!"{now.iso}#{requestId}#outcome"
  actorId := submission.actorId
  action := s!"tier3.{submission.operation.name}.outcome"
  tier3Action := submission.operation.name
  sourceService := sourceService
  requestId := requestId
  timestamp := now.iso
  outcome := if failureMessage.isSome then "failure" else "success"
  target := submission.target
  reason := none
  errorMessage := failureMessage

/-! ## A request -/

/-- How a call to DynamoDB ends. `applied` tells whether a write has been applied. -/
inductive CallResult where
  | ok
  | failed (applied : Bool) (error : String)
  | cancelled (applied : Bool)
  deriving DecidableEq

/-- The write of the call has been applied. -/
def CallResult.applied : CallResult → Bool
  | .ok => true
  | .failed applied _ | .cancelled applied => applied

/-- What the caller of a route gets. -/
inductive Answer where
  | envelope (envelope : LifecycleResponse)
  | badRequest (detail : String)
  | raised (error : String)
  | cancelled

/-- Where a request is suspended: before the call it names. `closing` is the `finally` of
`audit_lifecycle`, with its `failure_message` and what the request comes to. -/
inductive Pc where
  | reading
  | auditing
  | seeding (auditRequestId : String)
  | handling (auditRequestId : String) (startedAt : ℚ)
  | finalizing (auditRequestId : String) (startedAt : ℚ)
      (result : Except String (List (String × PyJson)))
  | closing (auditRequestId : String) (failureMessage : Option String) (answer : Answer)
  | ended (answer : Answer)

/-- What a request is resumed with: the end of its call, with a reading of the clock and a
fresh identifier, or the end of its handler. -/
inductive Input where
  | call (result : CallResult) (now : Clock) (requestId : String)
  | handler (result : HandlerResult)

/-- The message of the `HTTPException` of the confirmation gate. -/
def Submission.mismatch (submission : Submission) : String :=
  s!"confirmation mismatch: expected '{submission.expectedConfirmation}'"

/-- The envelope that `update_terminal` writes. -/
def Submission.terminalEnvelope (submission : Submission) (auditRequestId : String)
    (startedAt finishedAt : ℚ) : Except String (List (String × PyJson)) → LifecycleResponse
  | .ok result =>
      ⟨submission.key, .succeeded, some result, none, auditRequestId, startedAt, some finishedAt⟩
  | .error error =>
      ⟨submission.key, .failed, none, some error, auditRequestId, startedAt, some finishedAt⟩

/-- The message of `_LifecycleHandlerFailed` in the audit log. -/
def handlerFailed (error : String) : String :=
  "_LifecycleHandlerFailed: " ++ if error = "" then "lifecycle handler failed" else error

/-- One step of `execute_lifecycle_or_failed_envelope`. -/
def Submission.resume (submission : Submission) (store : Store) : Pc → Input → Option (Store × Pc)
  | .reading, .call result _ _ =>
      match result with
      | .ok =>
          match store.get submission.key with
          | some cached => some (store, .ended (.envelope cached))
          | none =>
              if submission.Confirmed then some (store, .auditing)
              else some (store, .ended (.badRequest submission.mismatch))
      | .failed _ error => some (store, .ended (.raised error))
      | .cancelled _ => some (store, .ended .cancelled)
  | .auditing, .call result now requestId =>
      let written :=
        if result.applied then store.record (.audit (submission.intentRow requestId now)) else store
      match result with
      | .ok => some (written, .seeding requestId)
      | .failed _ error => some (written, .ended (.raised error))
      | .cancelled _ => some (written, .ended .cancelled)
  | .seeding requestId, .call result now _ =>
      let written :=
        if result.applied then store.putPending submission.key requestId now.time else store
      match result with
      | .ok => some (written, .handling requestId now.time)
      | .failed _ error => some (written, .closing requestId (some error) (.raised error))
      | .cancelled _ => some (written, .closing requestId none .cancelled)
  | .handling requestId startedAt, .handler result =>
      let run := store.record (.handler submission result)
      match result with
      | .returned result => some (run, .finalizing requestId startedAt (.ok result))
      | .raised error => some (run, .finalizing requestId startedAt (.error error))
      | .cancelled => some (run, .closing requestId none .cancelled)
  | .finalizing requestId startedAt result, .call update now _ =>
      let envelope := submission.terminalEnvelope requestId startedAt now.time result
      let written := if update.applied then store.updateTerminal envelope else store
      match update with
      | .ok =>
          let failureMessage :=
            match result with
            | .ok _ => none
            | .error error => some (handlerFailed error)
          some (written, .closing requestId failureMessage (.envelope envelope))
      | .failed _ error => some (written, .closing requestId (some error) (.raised error))
      | .cancelled _ => some (written, .closing requestId none .cancelled)
  | .closing requestId failureMessage answer, .call result now _ =>
      let written :=
        if result.applied then
          store.record (.audit (submission.outcomeRow requestId failureMessage now))
        else store
      match result with
      | .ok => some (written, .ended answer)
      | .failed _ error => some (written, .ended (.raised error))
      | .cancelled _ => some (written, .ended .cancelled)
  | _, _ => none

/-! ## Several requests -/

/-- A request with the place it has come to. -/
structure Call where
  submission : Submission
  pc : Pc

/-- The store and the requests of all processes. -/
structure State where
  store : Store
  calls : Table ℕ Call

/-- A request arrives, or one of them is resumed. -/
inductive Action where
  | submit (id : ℕ) (submission : Submission)
  | resume (id : ℕ) (input : Input)

/-- Empty tables and no request. -/
def State.initial : State := ⟨⟨∅, []⟩, ∅⟩

/-- One step of the admin API. -/
def step (state : State) : Action → Option State
  | .submit id submission =>
      if id ∈ state.calls then none
      else some { state with calls := state.calls.insert id ⟨submission, .reading⟩ }
  | .resume id input =>
      (state.calls.lookup id).bind fun call =>
        (call.submission.resume state.store call.pc input).map fun (store, pc) =>
          ⟨store, state.calls.insert id ⟨call.submission, pc⟩⟩

/-- A resumed request, and what it leaves. -/
theorem step_resume {before after : State} {id : ℕ} {input : Input}
    (taken : step before (.resume id input) = some after) :
    ∃ call store pc, before.calls.lookup id = some call ∧
      call.submission.resume before.store call.pc input = some (store, pc) ∧
        after = ⟨store, before.calls.insert id ⟨call.submission, pc⟩⟩ := by
  obtain ⟨call, held, moved⟩ := Option.bind_eq_some_iff.mp taken
  obtain ⟨⟨store, pc⟩, resumed, rfl⟩ := Option.map_eq_some_iff.mp moved
  exact ⟨call, store, pc, held, resumed, rfl⟩

/-! ## What a request can do -/

/-- The answer is no envelope. -/
def Answer.Bare (answer : Answer) : Prop := ∀ envelope, answer ≠ .envelope envelope

/-- What a request can do when it is resumed: the store it leaves and where it goes. -/
inductive Moves (submission : Submission) (store : Store) : Pc → Store → Pc → Prop
  | cached {envelope : LifecycleResponse} (found : store.get submission.key = some envelope) :
      Moves submission store .reading store (.ended (.envelope envelope))
  | admitted (absent : store.get submission.key = none) (confirmed : submission.Confirmed) :
      Moves submission store .reading store .auditing
  | refused {answer : Answer} (bare : answer.Bare) :
      Moves submission store .reading store (.ended answer)
  | intended (requestId : String) (now : Clock) :
      Moves submission store .auditing
        (store.record (.audit (submission.intentRow requestId now))) (.seeding requestId)
  | unintended {written : Store} {answer : Answer} (bare : answer.Bare)
      (tried : written = store ∨ ∃ requestId now,
        written = store.record (.audit (submission.intentRow requestId now))) :
      Moves submission store .auditing written (.ended answer)
  | seeded (requestId : String) (now : ℚ) :
      Moves submission store (.seeding requestId) (store.putPending submission.key requestId now)
        (.handling requestId now)
  | unseeded {requestId : String} {written : Store} {failureMessage : Option String}
      {answer : Answer} (bare : answer.Bare)
      (tried : written = store ∨ ∃ now, written = store.putPending submission.key requestId now) :
      Moves submission store (.seeding requestId) written
        (.closing requestId failureMessage answer)
  | ran {requestId : String} {startedAt : ℚ} (result : Except String (List (String × PyJson)))
      (ended : HandlerResult) :
      Moves submission store (.handling requestId startedAt)
        (store.record (.handler submission ended)) (.finalizing requestId startedAt result)
  | interrupted {requestId : String} {startedAt : ℚ} :
      Moves submission store (.handling requestId startedAt)
        (store.record (.handler submission .cancelled)) (.closing requestId none .cancelled)
  | finalized {requestId : String} {startedAt : ℚ}
      {result : Except String (List (String × PyJson))} (finishedAt : ℚ)
      (failureMessage : Option String) :
      Moves submission store (.finalizing requestId startedAt result)
        (store.updateTerminal
          (submission.terminalEnvelope requestId startedAt finishedAt result))
        (.closing requestId failureMessage
          (.envelope (submission.terminalEnvelope requestId startedAt finishedAt result)))
  | unfinalized {requestId : String} {startedAt : ℚ}
      {result : Except String (List (String × PyJson))} {written : Store}
      {failureMessage : Option String} {answer : Answer} (bare : answer.Bare)
      (tried : written = store ∨ ∃ finishedAt, written = store.updateTerminal
        (submission.terminalEnvelope requestId startedAt finishedAt result)) :
      Moves submission store (.finalizing requestId startedAt result) written
        (.closing requestId failureMessage answer)
  | closed {requestId : String} {failureMessage : Option String} {written : Store}
      {answer final : Answer} (answers : final = answer ∨ final.Bare)
      (tried : written = store ∨ ∃ now, written = store.record
        (.audit (submission.outcomeRow requestId failureMessage now))) :
      Moves submission store (.closing requestId failureMessage answer) written (.ended final)

theorem bare_raised (error : String) : (Answer.raised error).Bare := fun _ => Answer.noConfusion

theorem bare_cancelled : Answer.cancelled.Bare := fun _ => Answer.noConfusion

theorem bare_badRequest (detail : String) : (Answer.badRequest detail).Bare :=
  fun _ => Answer.noConfusion

variable {submission : Submission} {store after : Store} {pc next : Pc} {input : Input}

/-- A write whose answer is lost has been applied or not. -/
theorem tried_of_applied {written : Store} (applied : Bool) :
    (if applied then written else store) = store ∨
      (if applied then written else store) = written := by
  cases applied with
  | true => exact Or.inr rfl
  | false => exact Or.inl rfl

/-- A resumed request does one of these things. -/
theorem Submission.resume_moves (resumed : submission.resume store pc input = some (after, next)) :
    Moves submission store pc after next := by
  cases pc with
  | reading =>
      cases input with
      | handler result => cases resumed
      | call result now requestId =>
          cases result with
          | ok =>
              simp only [Submission.resume] at resumed
              split at resumed
              · rename_i cached found
                cases resumed
                exact .cached found
              · rename_i absent
                split at resumed
                · rename_i confirmed
                  cases resumed
                  exact .admitted absent confirmed
                · cases resumed
                  exact .refused (bare_badRequest _)
          | failed applied error =>
              cases resumed
              exact .refused (bare_raised error)
          | cancelled applied =>
              cases resumed
              exact .refused bare_cancelled
  | auditing =>
      cases input with
      | handler result => cases resumed
      | call result now requestId =>
          cases result with
          | ok =>
              cases resumed
              exact .intended requestId now
          | failed applied error =>
              cases resumed
              exact .unintended (bare_raised error)
                ((tried_of_applied applied).imp_right fun same => ⟨requestId, now, same⟩)
          | cancelled applied =>
              cases resumed
              exact .unintended bare_cancelled
                ((tried_of_applied applied).imp_right fun same => ⟨requestId, now, same⟩)
  | seeding id =>
      cases input with
      | handler result => cases resumed
      | call result now requestId =>
          cases result with
          | ok =>
              cases resumed
              exact .seeded id now.time
          | failed applied error =>
              cases resumed
              exact .unseeded (bare_raised error)
                ((tried_of_applied applied).imp_right fun same => ⟨now.time, same⟩)
          | cancelled applied =>
              cases resumed
              exact .unseeded bare_cancelled
                ((tried_of_applied applied).imp_right fun same => ⟨now.time, same⟩)
  | handling id startedAt =>
      cases input with
      | call result now requestId => cases resumed
      | handler result =>
          cases result with
          | returned result =>
              cases resumed
              exact .ran (.ok result) (.returned result)
          | raised error =>
              cases resumed
              exact .ran (.error error) (.raised error)
          | cancelled =>
              cases resumed
              exact .interrupted
  | finalizing id startedAt result =>
      cases input with
      | handler result => cases resumed
      | call update now requestId =>
          cases update with
          | ok =>
              cases resumed
              exact .finalized now.time _
          | failed applied error =>
              cases resumed
              exact .unfinalized (bare_raised error)
                ((tried_of_applied applied).imp_right fun same => ⟨now.time, same⟩)
          | cancelled applied =>
              cases resumed
              exact .unfinalized bare_cancelled
                ((tried_of_applied applied).imp_right fun same => ⟨now.time, same⟩)
  | closing id failureMessage answer =>
      cases input with
      | handler result => cases resumed
      | call result now requestId =>
          cases result with
          | ok =>
              cases resumed
              exact .closed (Or.inl rfl) (Or.inr ⟨now, rfl⟩)
          | failed applied error =>
              cases resumed
              exact .closed (Or.inr (bare_raised error))
                ((tried_of_applied applied).imp_right fun same => ⟨now, same⟩)
          | cancelled applied =>
              cases resumed
              exact .closed (Or.inr bare_cancelled)
                ((tried_of_applied applied).imp_right fun same => ⟨now, same⟩)
  | ended answer => cases input <;> cases resumed

end Panakoes.AdminApi
