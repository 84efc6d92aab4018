import Panakoes.AdminApi.AtMostOnce

/-! # What the audit log says of a run

One request runs from its lookup to its end while every call and the handler succeed, fail
or are cancelled. The outcome is inferred from the exception that leaves the body: a failed
write after the handler has returned makes it a failure, and a cancellation, which is no
`Exception`, makes it a success. The rows agree with what has happened exactly when the
calls end as `Agrees` says.
-/

namespace Panakoes.AdminApi

/-- How the calls of one request end, and its handler, with the readings of the clock. -/
structure Environment where
  lookup : CallResult
  intent : CallResult
  pending : CallResult
  handler : HandlerResult
  terminal : CallResult
  outcome : CallResult
  requestId : String
  intentAt : Clock
  pendingAt : Clock
  terminalAt : Clock
  outcomeAt : Clock

/-- What a request is resumed with where it is suspended. -/
def Environment.input (environment : Environment) : Pc → Input
  | .reading => .call environment.lookup environment.intentAt environment.requestId
  | .auditing => .call environment.intent environment.intentAt environment.requestId
  | .seeding _ => .call environment.pending environment.pendingAt environment.requestId
  | .handling _ _ => .handler environment.handler
  | .finalizing _ _ _ => .call environment.terminal environment.terminalAt environment.requestId
  | .closing _ _ _ | .ended _ =>
      .call environment.outcome environment.outcomeAt environment.requestId

/-- So many steps of a request, or fewer if it has ended. -/
def Submission.advance (submission : Submission) (environment : Environment) :
    ℕ → Store → Pc → Store × Pc
  | 0, store, pc => (store, pc)
  | count + 1, store, pc =>
      match submission.resume store pc (environment.input pc) with
      | some (written, next) => submission.advance environment count written next
      | none => (store, pc)

/-- The run of a request. It has six calls at most. -/
def Submission.execute (submission : Submission) (environment : Environment) (store : Store) :
    Store × Pc :=
  submission.advance environment 6 store .reading

/-- The request passes the gates. -/
structure Submission.Passes (submission : Submission) (environment : Environment)
    (store : Store) : Prop where
  answered : environment.lookup = .ok
  absent : store.get submission.key = none
  confirmed : submission.Confirmed

/-- The row is an intent row. -/
def AuditRow.isIntent (row : AuditRow) : Bool := row.action = s!"tier3.{row.tier3Action}.intent"

/-- The row is an outcome row. -/
def AuditRow.isOutcome (row : AuditRow) : Bool := row.action = s!"tier3.{row.tier3Action}.outcome"

/-- An intent row has been written. -/
def Effect.isIntent : Effect → Bool
  | .audit row => row.isIntent
  | .handler _ _ => false

/-- The handler has run to its end. -/
def Effect.isCompletion : Effect → Bool
  | .handler _ (.returned _) => true
  | _ => false

/-- The status of the row under the key. -/
def Store.status (store : Store) (key : String) : Option LifecycleStatus :=
  (store.rows.lookup key).map StateRow.status

/-- What a run has done is told truly: `effects` is what it has added to the log, and
`status` the status of its row at its end. -/
structure Truthful (effects : List Effect) (status : Option LifecycleStatus) : Prop where
  intent : ∀ front submission result rest, effects = front ++ .handler submission result :: rest →
    front.countP Effect.isIntent = 1
  outcome : ∀ row, .audit row ∈ effects → row.isOutcome = true →
    (row.outcome = "success" ↔ effects.any Effect.isCompletion = true)
  row : ∀ row, .audit row ∈ effects → row.isOutcome = true →
    status = some (if row.outcome = "success" then .succeeded else .failed)

/-- The calls of a run whose outcome row is written end so that the rows agree. `status` is
the status of an item that has no envelope, before the run. -/
def Environment.Agrees (environment : Environment) (status : Option LifecycleStatus) : Prop :=
  environment.intent = .ok → environment.outcome.applied = true →
    match environment.pending with
    | .ok =>
        match environment.handler with
        | .returned _ => environment.terminal = .ok ∨ environment.terminal = .cancelled true
        | .raised _ => environment.terminal = .ok ∨
            ∃ error, environment.terminal = .failed true error
        | .cancelled => False
    | .failed applied _ => applied = false ∧ status = some .failed
    | .cancelled _ => False

/-! ## What a run leaves -/

/-- The failure message after the update. -/
def Environment.updateMessage (environment : Environment)
    (result : Except String (List (String × PyJson))) : Option String :=
  match environment.terminal, result with
  | .ok, .ok _ => none
  | .ok, .error error => some (handlerFailed error)
  | .failed _ error, _ => some error
  | .cancelled _, _ => none

/-- The failure message that the outcome row of a run gets. -/
def Environment.failureMessage (environment : Environment) : Option String :=
  match environment.pending with
  | .failed _ error => some error
  | .cancelled _ => none
  | .ok =>
      match environment.handler with
      | .cancelled => none
      | .returned result => environment.updateMessage (.ok result)
      | .raised error => environment.updateMessage (.error error)

/-- The status that a run leaves. -/
def Environment.finalStatus (environment : Environment) (status : Option LifecycleStatus) :
    Option LifecycleStatus :=
  match environment.pending with
  | .failed applied _ | .cancelled applied => if applied then some .pending else status
  | .ok =>
      match environment.handler with
      | .cancelled => some .pending
      | .returned _ => if environment.terminal.applied then some .succeeded else some .pending
      | .raised _ => if environment.terminal.applied then some .failed else some .pending

/-- The outcome row, if it is written. -/
def Submission.outcomeEffects (submission : Submission) (environment : Environment)
    (failureMessage : Option String) : List Effect :=
  if environment.outcome.applied then
    [.audit (submission.outcomeRow environment.requestId failureMessage environment.outcomeAt)]
  else []

/-- The run of the handler, if it is reached. -/
def Submission.handlerEffects (submission : Submission) (environment : Environment) :
    List Effect :=
  match environment.pending with
  | .ok => [.handler submission environment.handler]
  | _ => []

/-- The intent row, if it is written. -/
def Submission.intentEffects (submission : Submission) (environment : Environment) :
    List Effect :=
  if environment.intent.applied then
    [.audit (submission.intentRow environment.requestId environment.intentAt)]
  else []

/-- What a run adds to the log. -/
def Submission.effects (submission : Submission) (environment : Environment) : List Effect :=
  submission.intentEffects environment ++
    if environment.intent = .ok then
      submission.handlerEffects environment ++
        submission.outcomeEffects environment environment.failureMessage
    else []

/-- A run ends, having added the effects to the log and left the status. -/
structure Leaves (submission : Submission) (place : Store × Pc) (store : Store)
    (effects : List Effect) (status : Option LifecycleStatus) : Prop where
  ended : ∃ answer, place.2 = .ended answer
  log : place.1.log = store.log ++ effects
  status : place.1.status submission.key = status

variable {submission : Submission} {environment : Environment} {store : Store}
  {requestId : String} {startedAt : ℚ}

theorem advance_ended (count : ℕ) (answer : Answer) :
    submission.advance environment count store (.ended answer) = (store, .ended answer) := by
  cases count <;> rfl

theorem status_putPending {key auditRequestId : String} {now : ℚ} :
    (store.putPending key auditRequestId now).status key = some .pending := by
  unfold Store.status Store.putPending
  rw [AList.lookup_insert]
  rfl

theorem status_updateTerminal {envelope : LifecycleResponse} :
    (store.updateTerminal envelope).status envelope.idempotencyKey = some envelope.status := by
  unfold Store.status Store.updateTerminal
  rw [AList.lookup_insert]
  cases store.rows.lookup envelope.idempotencyKey <;> rfl

variable (submission environment store) in
/-- No call is left. -/
theorem leaves_ended (count : ℕ) (answer : Answer) :
    Leaves submission (submission.advance environment count store (.ended answer)) store []
      (store.status submission.key) := by
  rw [advance_ended]
  exact ⟨⟨answer, rfl⟩, (List.append_nil _).symm, rfl⟩

/-- A step, and the run from there on. -/
theorem Leaves.of_step {count : ℕ} {pc next : Pc} {written : Store} {added effects : List Effect}
    {status : Option LifecycleStatus}
    (leaves : Leaves submission (submission.advance environment count written next) written effects
      status)
    (resumed : submission.resume store pc (environment.input pc) = some (written, next))
    (log : written.log = store.log ++ added) :
    Leaves submission (submission.advance environment (count + 1) store pc) store
      (added ++ effects) status := by
  have advanced : submission.advance environment (count + 1) store pc =
      submission.advance environment count written next := by
    simp only [Submission.advance, resumed]
  rw [advanced]
  refine ⟨leaves.ended, ?_, leaves.status⟩
  rw [leaves.log, log, List.append_assoc]

/-- A step that does not write to the log. -/
theorem Leaves.of_quiet {count : ℕ} {pc next : Pc} {written : Store} {effects : List Effect}
    {status : Option LifecycleStatus}
    (leaves : Leaves submission (submission.advance environment count written next) written effects
      status)
    (resumed : submission.resume store pc (environment.input pc) = some (written, next))
    (log : written.log = store.log) :
    Leaves submission (submission.advance environment (count + 1) store pc) store effects
      status :=
  leaves.of_step resumed (log.trans (List.append_nil _).symm)

variable (submission environment store) in
/-- The last call: the outcome row. -/
theorem leaves_closing (count : ℕ) (failureMessage : Option String) (answer : Answer) :
    Leaves submission
      (submission.advance environment (count + 1) store
        (.closing environment.requestId failureMessage answer))
      store (submission.outcomeEffects environment failureMessage)
      (store.status submission.key) := by
  unfold Submission.outcomeEffects
  cases outcome : environment.outcome with
  | ok =>
      simp only [Submission.advance, Submission.resume, Environment.input, outcome, advance_ended]
      exact ⟨⟨_, rfl⟩, rfl, rfl⟩
  | failed applied error =>
      simp only [Submission.advance, Submission.resume, Environment.input, outcome, advance_ended]
      cases applied with
      | true => exact ⟨⟨_, rfl⟩, rfl, rfl⟩
      | false => exact ⟨⟨_, rfl⟩, (List.append_nil _).symm, rfl⟩
  | cancelled applied =>
      simp only [Submission.advance, Submission.resume, Environment.input, outcome, advance_ended]
      cases applied with
      | true => exact ⟨⟨_, rfl⟩, rfl, rfl⟩
      | false => exact ⟨⟨_, rfl⟩, (List.append_nil _).symm, rfl⟩

variable (submission environment store startedAt) in
/-- The update, and the message it leads to. -/
theorem resume_finalizing (result : Except String (List (String × PyJson))) :
    ∃ answer, submission.resume store (.finalizing environment.requestId startedAt result)
      (environment.input (.finalizing environment.requestId startedAt result)) =
        some (if environment.terminal.applied then
            store.updateTerminal (submission.terminalEnvelope environment.requestId startedAt
              environment.terminalAt.time result)
          else store,
          .closing environment.requestId (environment.updateMessage result) answer) := by
  unfold Environment.updateMessage
  cases terminal : environment.terminal <;> cases result <;>
    exact ⟨_, by simp only [Submission.resume, Environment.input, terminal]; rfl⟩

theorem status_terminalEnvelope {finishedAt : ℚ}
    (result : Except String (List (String × PyJson))) :
    (store.updateTerminal
      (submission.terminalEnvelope requestId startedAt finishedAt result)).status
        submission.key =
      some (submission.terminalEnvelope requestId startedAt finishedAt result).status := by
  have keyed : (submission.terminalEnvelope requestId startedAt finishedAt
      result).idempotencyKey = submission.key := by
    cases result <;> rfl
  rw [← keyed]
  exact status_updateTerminal

variable (submission environment store startedAt) in
/-- From the end of the handler on: the update, then the outcome row. -/
theorem leaves_finalizing (count : ℕ) (result : Except String (List (String × PyJson))) :
    Leaves submission
      (submission.advance environment (count + 2) store
        (.finalizing environment.requestId startedAt result))
      store
      (submission.outcomeEffects environment (environment.updateMessage result))
      (if environment.terminal.applied then
        some (submission.terminalEnvelope environment.requestId startedAt
          environment.terminalAt.time result).status
      else store.status submission.key) := by
  obtain ⟨answer, resumed⟩ := resume_finalizing submission environment store startedAt result
  split at resumed
  · rename_i applied
    rw [if_pos applied, ← status_terminalEnvelope result]
    exact (leaves_closing submission environment _ count _ answer).of_quiet resumed rfl
  · rename_i lost
    rw [if_neg lost]
    exact (leaves_closing submission environment _ count _ answer).of_quiet resumed rfl

/-- A handler that has come to an end, and the update from there on. -/
theorem leaves_handled (count : ℕ) {handled : HandlerResult}
    (result : Except String (List (String × PyJson)))
    (seeded : store.status submission.key = some .pending)
    (resumed : submission.resume store (.handling environment.requestId startedAt)
      (environment.input (.handling environment.requestId startedAt)) =
        some (store.record (.handler submission handled),
          .finalizing environment.requestId startedAt result)) :
    Leaves submission
      (submission.advance environment (count + 3) store
        (.handling environment.requestId startedAt))
      store
      ([.handler submission handled] ++
        submission.outcomeEffects environment (environment.updateMessage result))
      (if environment.terminal.applied then
        some (submission.terminalEnvelope environment.requestId startedAt
          environment.terminalAt.time result).status
      else some .pending) := by
  have kept : (store.record (.handler submission handled)).status submission.key =
      some .pending := seeded
  have leaves := leaves_finalizing submission environment
    (store.record (.handler submission handled)) startedAt count result
  rw [kept] at leaves
  exact leaves.of_step resumed rfl

variable (submission environment store startedAt) in
/-- From the handler on. -/
theorem leaves_handling (count : ℕ) (pending : environment.pending = .ok)
    (seeded : store.status submission.key = some .pending) (status : Option LifecycleStatus) :
    Leaves submission
      (submission.advance environment (count + 3) store
        (.handling environment.requestId startedAt))
      store
      ([.handler submission environment.handler] ++
        submission.outcomeEffects environment environment.failureMessage)
      (environment.finalStatus status) := by
  unfold Environment.failureMessage Environment.finalStatus
  rw [pending]
  dsimp only
  cases handler : environment.handler with
  | returned result =>
      refine leaves_handled count (.ok result) seeded ?_
      simp only [Submission.resume, Environment.input, handler]
  | raised error =>
      refine leaves_handled count (.error error) seeded ?_
      simp only [Submission.resume, Environment.input, handler]
  | cancelled =>
      have resumed : submission.resume store (.handling environment.requestId startedAt)
          (environment.input (.handling environment.requestId startedAt)) =
            some (store.record (.handler submission .cancelled),
              .closing environment.requestId none .cancelled) := by
        simp only [Submission.resume, Environment.input, handler]
      have kept : (store.record (.handler submission .cancelled)).status submission.key =
          some .pending := seeded
      have leaves := leaves_closing submission environment
        (store.record (.handler submission .cancelled)) (count + 1) none .cancelled
      rw [kept] at leaves
      exact leaves.of_step resumed rfl

/-- The pending row has not been reported, whether it has been put or not. -/
theorem leaves_unseeded (count : ℕ) {applied : Bool} {failureMessage : Option String}
    (answer : Answer)
    (resumed : submission.resume store (.seeding environment.requestId)
      (environment.input (.seeding environment.requestId)) =
        some (if applied then
            store.putPending submission.key environment.requestId environment.pendingAt.time
          else store, .closing environment.requestId failureMessage answer)) :
    Leaves submission
      (submission.advance environment (count + 2) store (.seeding environment.requestId))
      store (submission.outcomeEffects environment failureMessage)
      (if applied then some .pending else store.status submission.key) := by
  cases applied with
  | true =>
      have leaves := leaves_closing submission environment
        (store.putPending submission.key environment.requestId environment.pendingAt.time) count
        failureMessage answer
      rw [status_putPending] at leaves
      exact leaves.of_quiet resumed rfl
  | false => exact (leaves_closing submission environment _ count _ answer).of_quiet resumed rfl

variable (submission environment store) in
/-- From the pending row on. -/
theorem leaves_seeding (count : ℕ) :
    Leaves submission
      (submission.advance environment (count + 4) store (.seeding environment.requestId))
      store
      (submission.handlerEffects environment ++
        submission.outcomeEffects environment environment.failureMessage)
      (environment.finalStatus (store.status submission.key)) := by
  cases pending : environment.pending with
  | ok =>
      have resumed : submission.resume store (.seeding environment.requestId)
          (environment.input (.seeding environment.requestId)) =
            some (store.putPending submission.key environment.requestId environment.pendingAt.time,
              .handling environment.requestId environment.pendingAt.time) := by
        simp only [Submission.resume, Environment.input, pending]
        rfl
      have leaves := leaves_handling submission environment
        (store.putPending submission.key environment.requestId environment.pendingAt.time)
        environment.pendingAt.time count pending status_putPending (store.status submission.key)
      unfold Submission.handlerEffects
      rw [pending]
      exact leaves.of_quiet resumed rfl
  | failed applied error =>
      unfold Submission.handlerEffects Environment.failureMessage Environment.finalStatus
      rw [pending]
      refine leaves_unseeded (count + 2) (.raised error) ?_
      simp only [Submission.resume, Environment.input, pending]
      rfl
  | cancelled applied =>
      unfold Submission.handlerEffects Environment.failureMessage Environment.finalStatus
      rw [pending]
      refine leaves_unseeded (count + 2) .cancelled ?_
      simp only [Submission.resume, Environment.input, pending]
      rfl

/-- The intent row has not been reported, whether it has been written or not. -/
theorem leaves_unintended (count : ℕ) {applied : Bool} (answer : Answer)
    (resumed : submission.resume store .auditing (environment.input .auditing) =
      some (if applied then
          store.record (.audit (submission.intentRow environment.requestId environment.intentAt))
        else store, .ended answer))
    (intent : environment.intent.applied = applied) :
    Leaves submission (submission.advance environment (count + 1) store .auditing) store
      (submission.intentEffects environment) (store.status submission.key) := by
  unfold Submission.intentEffects
  rw [intent]
  cases applied with
  | true => exact (leaves_ended submission environment _ count answer).of_step resumed rfl
  | false => exact (leaves_ended submission environment _ count answer).of_quiet resumed rfl

variable (submission environment store) in
/-- From the intent row on. -/
theorem leaves_auditing (count : ℕ) :
    Leaves submission (submission.advance environment (count + 5) store .auditing) store
      (submission.effects environment)
      (if environment.intent = .ok then environment.finalStatus (store.status submission.key)
      else store.status submission.key) := by
  unfold Submission.effects
  cases intent : environment.intent with
  | ok =>
      rw [if_pos rfl, if_pos rfl]
      have resumed : submission.resume store .auditing (environment.input .auditing) =
          some (store.record (.audit
              (submission.intentRow environment.requestId environment.intentAt)),
            .seeding environment.requestId) := by
        simp only [Submission.resume, Environment.input, intent]
        rfl
      have written : submission.intentEffects environment =
          [.audit (submission.intentRow environment.requestId environment.intentAt)] := by
        unfold Submission.intentEffects
        rw [intent]
        rfl
      rw [written]
      have leaves := leaves_seeding submission environment (store.record (.audit
        (submission.intentRow environment.requestId environment.intentAt))) count
      exact leaves.of_step resumed rfl
  | failed applied error =>
      rw [if_neg CallResult.noConfusion, if_neg CallResult.noConfusion, List.append_nil]
      refine leaves_unintended (count + 4) (.raised error) ?_ (congrArg _ intent)
      simp only [Submission.resume, Environment.input, intent]
  | cancelled applied =>
      rw [if_neg CallResult.noConfusion, if_neg CallResult.noConfusion, List.append_nil]
      refine leaves_unintended (count + 4) .cancelled ?_ (congrArg _ intent)
      simp only [Submission.resume, Environment.input, intent]

/-- A run that passes the gates. -/
theorem execute_leaves (passes : submission.Passes environment store) :
    Leaves submission (submission.execute environment store) store
      (submission.effects environment)
      (if environment.intent = .ok then environment.finalStatus (store.status submission.key)
      else store.status submission.key) := by
  have admitted : submission.resume store .reading (environment.input .reading) =
      some (store, .auditing) := by
    simp only [Submission.resume, Environment.input, passes.answered, passes.absent,
      if_pos passes.confirmed]
  exact (leaves_auditing submission environment store 0).of_quiet admitted rfl

/-! ## The rows agree with what has happened -/

/-- The run adds an intent row. -/
theorem isIntent_intentRow (submission : Submission) (requestId : String) (now : Clock) :
    (submission.intentRow requestId now).isIntent = true ∧
      (submission.intentRow requestId now).isOutcome = false := by
  refine ⟨decide_eq_true rfl, decide_eq_false ?_⟩
  show s!"tier3.{submission.operation.name}.intent" ≠ s!"tier3.{submission.operation.name}.outcome"
  cases submission.operation <;> decide

theorem isOutcome_outcomeRow (submission : Submission) (requestId : String)
    (failureMessage : Option String) (now : Clock) :
    (submission.outcomeRow requestId failureMessage now).isOutcome = true ∧
      ((submission.outcomeRow requestId failureMessage now).outcome = "success" ↔
        failureMessage = none) := by
  refine ⟨decide_eq_true rfl, ?_⟩
  cases failureMessage with
  | none => exact iff_of_true rfl rfl
  | some error =>
      have different : "failure" ≠ "success" := by decide
      exact iff_of_false different (Option.some_ne_none error)

theorem mem_intentEffects {effect : Effect}
    (written : effect ∈ submission.intentEffects environment) :
    effect = .audit (submission.intentRow environment.requestId environment.intentAt) := by
  unfold Submission.intentEffects at written
  split at written
  · exact List.mem_singleton.mp written
  · cases written

theorem mem_handlerEffects {effect : Effect}
    (run : effect ∈ submission.handlerEffects environment) :
    environment.pending = .ok ∧ effect = .handler submission environment.handler := by
  unfold Submission.handlerEffects at run
  split at run
  · rename_i pending
    exact ⟨pending, List.mem_singleton.mp run⟩
  · cases run

theorem mem_outcomeEffects {effect : Effect} {failureMessage : Option String}
    (written : effect ∈ submission.outcomeEffects environment failureMessage) :
    environment.outcome.applied = true ∧ effect = .audit (submission.outcomeRow
      environment.requestId failureMessage environment.outcomeAt) := by
  unfold Submission.outcomeEffects at written
  split at written
  · rename_i applied
    exact ⟨applied, List.mem_singleton.mp written⟩
  · cases written

/-- The only outcome row of a run. -/
theorem outcome_of_mem {row : AuditRow} (written : .audit row ∈ submission.effects environment)
    (isOutcome : row.isOutcome = true) :
    environment.intent = .ok ∧ environment.outcome.applied = true ∧
      row = submission.outcomeRow environment.requestId environment.failureMessage
        environment.outcomeAt := by
  rcases List.mem_append.mp written with isIntent | later
  · cases mem_intentEffects isIntent
    rw [(isIntent_intentRow _ _ _).2] at isOutcome
    cases isOutcome
  · split at later
    · rename_i intent
      rcases List.mem_append.mp later with handled | outcome
      · cases (mem_handlerEffects handled).2
      · obtain ⟨applied, same⟩ := mem_outcomeEffects outcome
        cases same
        exact ⟨intent, applied, rfl⟩
    · cases later

theorem effects_of_intent (intent : environment.intent = .ok) :
    submission.effects environment =
      .audit (submission.intentRow environment.requestId environment.intentAt) ::
        (submission.handlerEffects environment ++
          submission.outcomeEffects environment environment.failureMessage) := by
  unfold Submission.effects Submission.intentEffects
  rw [if_pos intent, intent]
  rfl

/-- One intent row comes before the handler. -/
theorem intent_first {front rest : List Effect} {other : Submission} {result : HandlerResult}
    (parted : submission.effects environment = front ++ .handler other result :: rest) :
    front.countP Effect.isIntent = 1 := by
  have run : .handler other result ∈ submission.effects environment := by
    rw [parted]
    exact List.mem_append_right _ (List.mem_cons_self ..)
  obtain ⟨intent, pending⟩ : environment.intent = .ok ∧ environment.pending = .ok := by
    rcases List.mem_append.mp run with isIntent | later
    · cases mem_intentEffects isIntent
    · split at later
      · rename_i intent
        rcases List.mem_append.mp later with handled | outcome
        · exact ⟨intent, (mem_handlerEffects handled).1⟩
        · cases (mem_outcomeEffects outcome).2
      · cases later
  rw [effects_of_intent intent] at parted
  unfold Submission.handlerEffects at parted
  rw [pending] at parted
  change .audit _ :: .handler _ _ :: submission.outcomeEffects _ _ = _ at parted
  -- the intent row is in front, and after the handler there is no other
  rcases List.cons_eq_append_iff.mp parted with ⟨-, same⟩ | ⟨between, rfl, inner⟩
  · cases same
  · rcases List.cons_eq_append_iff.mp inner with ⟨rfl, -⟩ | ⟨others, rfl, last⟩
    · rw [List.countP_singleton]
      exact if_pos (isIntent_intentRow _ _ _).1
    · have late : .handler other result ∈
          submission.outcomeEffects environment environment.failureMessage := by
        rw [last]
        exact List.mem_append_right _ (List.mem_cons_self ..)
      cases (mem_outcomeEffects late).2

/-- The handler of the run has run to its end. -/
def Environment.Completed (environment : Environment) : Prop :=
  environment.pending = .ok ∧ ∃ result, environment.handler = .returned result

theorem any_isCompletion (intent : environment.intent = .ok) :
    (submission.effects environment).any Effect.isCompletion = true ↔ environment.Completed := by
  rw [effects_of_intent intent, List.any_eq_true]
  constructor
  · rintro ⟨effect, member, completion⟩
    rcases List.mem_cons.mp member with rfl | later
    · cases completion
    · rcases List.mem_append.mp later with handled | outcome
      · obtain ⟨pending, rfl⟩ := mem_handlerEffects handled
        refine ⟨pending, ?_⟩
        cases handler : environment.handler with
        | returned result => exact ⟨result, rfl⟩
        | raised error =>
            rw [handler] at completion
            cases completion
        | cancelled =>
            rw [handler] at completion
            cases completion
      · obtain ⟨-, rfl⟩ := mem_outcomeEffects outcome
        cases completion
  · rintro ⟨pending, result, handler⟩
    refine ⟨.handler submission environment.handler, ?_, by rw [handler]; rfl⟩
    unfold Submission.handlerEffects
    rw [pending]
    exact List.mem_cons_of_mem _ (List.mem_cons_self ..)

/-- The run tells the truth when its outcome row does. -/
theorem truthful_iff {status : Option LifecycleStatus} :
    Truthful (submission.effects environment) status ↔
      (environment.intent = .ok → environment.outcome.applied = true →
        (environment.failureMessage = none ↔ environment.Completed) ∧
          status = some (if environment.failureMessage = none then .succeeded else .failed)) := by
  obtain ⟨isOutcome, success⟩ := isOutcome_outcomeRow submission environment.requestId
    environment.failureMessage environment.outcomeAt
  constructor
  · intro truthful intent applied
    have written : .audit (submission.outcomeRow environment.requestId environment.failureMessage
        environment.outcomeAt) ∈ submission.effects environment := by
      rw [effects_of_intent intent]
      unfold Submission.outcomeEffects
      rw [if_pos applied]
      exact List.mem_cons_of_mem _ (List.mem_append_right _ (List.mem_singleton_self _))
    refine ⟨?_, ?_⟩
    · rw [← success, ← any_isCompletion intent]
      exact truthful.outcome _ written isOutcome
    · have row := truthful.row _ written isOutcome
      simp only [success] at row
      exact row
  · intro agrees
    refine ⟨fun _ _ _ _ => intent_first, fun row written isOutcome => ?_,
      fun row written isOutcome => ?_⟩
    · obtain ⟨intent, applied, rfl⟩ := outcome_of_mem written isOutcome
      rw [success, any_isCompletion intent]
      exact (agrees intent applied).1
    · obtain ⟨intent, applied, rfl⟩ := outcome_of_mem written isOutcome
      simp only [success]
      exact (agrees intent applied).2

/-- The outcome row does exactly when the calls agree. -/
theorem agrees_iff {status : Option LifecycleStatus} :
    environment.Agrees status ↔
      (environment.intent = .ok → environment.outcome.applied = true →
        (environment.failureMessage = none ↔ environment.Completed) ∧
          environment.finalStatus status =
            some (if environment.failureMessage = none then .succeeded else .failed)) := by
  unfold Environment.Agrees
  refine forall_congr' fun intent => forall_congr' fun applied => ?_
  unfold Environment.failureMessage Environment.finalStatus Environment.Completed
  cases pending : environment.pending with
  | failed applied error => cases applied <;> simp
  | cancelled applied => simp
  | ok =>
      cases handler : environment.handler with
      | cancelled => simp
      | returned result =>
          unfold Environment.updateMessage
          cases terminal : environment.terminal with
          | ok => simp [CallResult.applied]
          | failed applied error => cases applied <;> simp [CallResult.applied]
          | cancelled applied => cases applied <;> simp [CallResult.applied]
      | raised error =>
          unfold Environment.updateMessage
          cases terminal : environment.terminal with
          | ok => simp [CallResult.applied]
          | failed applied error => cases applied <;> simp [CallResult.applied]
          | cancelled applied => cases applied <;> simp [CallResult.applied]

/-- What a run that passes the gates tells. -/
theorem execute_truthful (passes : submission.Passes environment store) :
    Truthful ((submission.execute environment store).1.log.drop store.log.length)
        ((submission.execute environment store).1.status submission.key) ↔
      (environment.intent = .ok → environment.outcome.applied = true →
        (environment.failureMessage = none ↔ environment.Completed) ∧
          environment.finalStatus (store.status submission.key) =
            some (if environment.failureMessage = none then .succeeded else .failed)) := by
  obtain ⟨-, log, status⟩ := execute_leaves passes
  rw [log, List.drop_left, status, truthful_iff]
  refine forall_congr' fun intent => ?_
  rw [if_pos intent]

/-- **Audit truthfulness.** A run that passes the gates tells the truth in both tables if
and only if its calls agree. -/
theorem audit_truthful_iff (passes : submission.Passes environment store) :
    Truthful ((submission.execute environment store).1.log.drop store.log.length)
        ((submission.execute environment store).1.status submission.key) ↔
      environment.Agrees (store.status submission.key) :=
  (execute_truthful passes).trans agrees_iff.symm

/-- Every call ends well, with the given handler. -/
def sampleEnvironment (handler : HandlerResult) : Environment :=
  ⟨.ok, .ok, .ok, handler, .ok, .ok, "a", sampleClock, sampleClock, sampleClock, sampleClock⟩

/-- The gates let the sample through. -/
theorem sample_passes (handler : HandlerResult) :
    sampleSubmission.Passes (sampleEnvironment handler) ⟨∅, []⟩ :=
  ⟨rfl, rfl, by decide⟩

/-- The theorem on a run whose handler raises. -/
theorem audit_truthful_raised :
    Truthful ((sampleSubmission.execute (sampleEnvironment (.raised "e")) ⟨∅, []⟩).1.log.drop 0)
      ((sampleSubmission.execute (sampleEnvironment (.raised "e")) ⟨∅, []⟩).1.status "k") :=
  (audit_truthful_iff (sample_passes _)).mpr fun _ _ => Or.inl rfl

/-- A handler that is cancelled is recorded as a success. -/
theorem cancelled_untruthful :
    ¬ ∀ (submission : Submission) (environment : Environment) (store : Store),
      submission.Passes environment store →
        Truthful ((submission.execute environment store).1.log.drop store.log.length)
          ((submission.execute environment store).1.status submission.key) := by
  intro always
  have truthful := always sampleSubmission (sampleEnvironment .cancelled) ⟨∅, []⟩ (sample_passes _)
  obtain ⟨-, pending⟩ := (execute_truthful (sample_passes _)).mp truthful rfl rfl
  exact absurd pending (by decide)

end Panakoes.AdminApi
