import Panakoes.AdminApi.Lifecycle
import Panakoes.Foundation.ConditionalWrite
import Panakoes.Foundation.PyStrip

/-! # The handlers of the lifecycle operations

A handler asks for a reason, finds its row where it has one, updates the row on condition that it is
there, and sends an event or a call to Batch where it has one to send. Requests of several processes
interleave at each call, other services write the same rows meanwhile, and a call that ends with an
error may have been applied. `block-user-sessions` updates several rows and is apart.
-/

namespace Panakoes.AdminApi.OperationHandlers

open Transition ConditionalWrite
open PyJson (get getD set)

/-- An item of a table. -/
abbrev Item := List (String × PyJson)

/-- A row of one of the tables, by its key. -/
inductive RowKey where
  | session (sessionId : String)
  | ingestion (pk sk : String)
  | tenant (tenantId : String)
  | apiKey (apiKeyId : String)
  deriving DecidableEq

/-- What a handler writes of its request: the time, the stripped reason and the admin. -/
structure Stamp where
  now : String
  reason : String
  actor : String

/-- What a handler sends: an event to the bus, or the end of a job to Batch. -/
inductive Effect where
  | event (source detailType : String) (detail : List (String × PyJson))
  | termination (jobId reason : String)

/-- How a handler comes to its row. -/
inductive Lookup where
  | nothing
  | known (key : RowKey)
  | getItem (key : RowKey)
  | query (ingestionId : String)
  deriving DecidableEq

/-- A handler. `result` is told what was read, what the update returned, and the id of what was
sent. -/
structure Handler where
  name : String
  lookup : Lookup
  notFound : String
  sets : Stamp → List (String × PyJson)
  effect : Option (Stamp → Effect)
  result : Stamp → Item → Item → String → List (String × PyJson)

/-- The value is this text. -/
def isText (text : String) : PyJson → Bool
  | .str value => value = text
  | _ => false

/-- The value is `None`. -/
def isNone : PyJson → Bool
  | .none => true
  | _ => false

/-- `terminate_session.make_handler`. -/
def terminateSession (sessionId : String) : Handler where
  name := "terminate-session"
  lookup := .known (.session sessionId)
  notFound := s!"session not found: {sessionId}"
  sets := fun stamp => [("status", .str "errored"), ("terminated_at", .str stamp.now),
    ("termination_reason", .str stamp.reason)]
  effect := none
  result := fun _ _ updated _ => [("session_id", .str sessionId),
    ("status", getD updated "status" (.str "errored")),
    ("terminated_at", get updated "terminated_at")]

/-- `force_fail_ingestion.make_handler`. -/
def forceFailIngestion (ingestionId : String) : Handler where
  name := "force-fail-ingestion"
  lookup := .query ingestionId
  notFound := s!"ingestion record not found: {ingestionId}"
  sets := fun stamp => [("status", .str "failed"), ("failed_at", .str stamp.now),
    ("failure_reason", .str stamp.reason), ("failure_source", .str "tier3.force-fail-ingestion")]
  effect := none
  result := fun _ _ updated _ => [("ingestion_id", .str ingestionId),
    ("status", getD updated "status" (.str "failed")), ("failed_at", get updated "failed_at")]

/-- `block_tenant.make_handler`. -/
def blockTenant (tenantId : String) : Handler where
  name := "block-tenant"
  lookup := .getItem (.tenant tenantId)
  notFound := s!"tenant not found: {tenantId}"
  sets := fun stamp => [("blocked_at", .str stamp.now), ("blocked_reason", .str stamp.reason),
    ("blocked_by", .str stamp.actor)]
  effect := none
  result := fun stamp existing _ _ => [("tenant_id", .str tenantId), ("blocked_at", .str stamp.now),
    ("blocked_reason", .str stamp.reason),
    ("previously_blocked", .bool (!isNone (get existing "blocked_at")))]

/-- `revoke_api_key.make_handler`. -/
def revokeApiKey (apiKeyId : String) : Handler where
  name := "revoke-api-key"
  lookup := .getItem (.apiKey apiKeyId)
  notFound := s!"api key not found: {apiKeyId}"
  sets := fun stamp => [("status", .str "revoked"), ("revoked_at", .str stamp.now),
    ("revoked_reason", .str stamp.reason), ("revoked_by", .str stamp.actor)]
  effect := none
  result := fun stamp existing _ _ => [("api_key_id", .str apiKeyId), ("revoked_at", .str stamp.now),
    ("revoked_reason", .str stamp.reason),
    ("was_active", .bool (isText "active" (getD existing "status" (.str "active")) &&
      isNone (get existing "revoked_at")))]

/-- `kill_streaming_session.make_handler`. -/
def killStreamingSession (sessionId : String) : Handler where
  name := "kill-streaming-session"
  lookup := .getItem (.session sessionId)
  notFound := s!"streaming session not found: {sessionId}"
  sets := fun stamp => [("status", .str "errored"), ("terminated_at", .str stamp.now),
    ("termination_reason", .str stamp.reason),
    ("termination_source", .str "tier3.kill-streaming-session")]
  effect := some fun stamp => .event "panakoes.admin-api" "StreamingSessionKilled"
    [("session_id", .str sessionId), ("killed_at", .str stamp.now),
      ("killed_reason", .str stamp.reason), ("killed_by", .str stamp.actor)]
  result := fun stamp existing _ eventId => [("session_id", .str sessionId),
    ("killed_at", .str stamp.now), ("killed_reason", .str stamp.reason),
    ("eventbridge_event_id", .str eventId),
    ("was_active", .bool (["active", "starting", "paused"].any
      fun status => isText status (get existing "status")))]

/-- `kill_batch_job.make_handler`. -/
def killBatchJob (jobId : String) : Handler where
  name := "kill-batch-job"
  lookup := .nothing
  notFound := ""
  sets := fun _ => []
  effect := some fun stamp => .termination jobId stamp.reason
  result := fun stamp _ _ requestId => [("job_id", .str jobId), ("killed_at", .str stamp.now),
    ("killed_reason", .str stamp.reason), ("batch_terminate_request_id", .str requestId)]

/-- `force_billing_recompute.make_handler`. -/
def forceBillingRecompute (tenantId : String) : Handler where
  name := "force-billing-recompute"
  lookup := .nothing
  notFound := ""
  sets := fun _ => []
  effect := some fun stamp => .event "panakoes.admin-api" "BillingRecomputeRequested"
    [("tenant_id", .str tenantId), ("queued_at", .str stamp.now),
      ("queued_reason", .str stamp.reason), ("queued_by", .str stamp.actor)]
  result := fun stamp _ _ eventId => [("tenant_id", .str tenantId), ("queued_at", .str stamp.now),
    ("queued_reason", .str stamp.reason), ("eventbridge_event_id", .str eventId)]

/-- The handler that the route of an operation makes. -/
def handlerOf (submission : Submission) : Option Handler :=
  match submission.operation with
  | .terminateSession => some (terminateSession submission.targetId)
  | .forceFailIngestion => some (forceFailIngestion submission.targetId)
  | .blockUserSessions => none
  | .blockTenant => some (blockTenant submission.targetId)
  | .revokeApiKey => some (revokeApiKey submission.targetId)
  | .killStreamingSession => some (killStreamingSession submission.targetId)
  | .killBatchJob => some (killBatchJob submission.targetId)
  | .forceBillingRecompute => some (forceBillingRecompute submission.targetId)

/-! ## A request -/

/-- What a handler raises. -/
inductive Raised where
  | valueError (message : String)
  | notFound (message : String)
  | runtimeError (message : String)
  | callError (message : String)

/-- Where the handler of a request is: before the call that finds its row, before the update, before
what it sends, or ended. What is behind it is the time, what was read and what the update returned. -/
inductive Phase where
  | finding (reason : String)
  | updating (reason : String) (key : RowKey) (existing : Item)
  | sending (reason : String) (behind : Option (String × Item × Item))
  | ended (answer : Except Raised (List (String × PyJson)))

/-- A request with its handler. -/
structure Request where
  handler : Handler
  actor : String
  phase : Phase

/-- `str(params.get("reason", "")).strip()`. -/
def reasonOf (str : PyJson → String) (params : List (String × PyJson)) : String :=
  let text :=
    match getD params "reason" (.str "") with
    | .str text => text
    | other => str other
  String.ofList (PyText.strip text.toList)

/-- The handler up to its first call. -/
def Handler.start (handler : Handler) (reason : String) : Phase :=
  if reason = "" then .ended (.error (.valueError s!"reason is required for {handler.name}"))
  else
    match handler.lookup with
    | .nothing => .sending reason none
    | .known key => .updating reason key []
    | .getItem _ | .query _ => .finding reason

/-- A text attribute. -/
def text? (item : Item) (name : String) : Option String :=
  match item.lookup name with
  | some (.str text) => some text
  | _ => none

/-- The key of the row that is updated when this item has been read. The index holds items under their
`ingestion_id`, and the ingestion API puts it into the sort key. -/
def Lookup.target (lookup : Lookup) (item : Item) : Option RowKey :=
  match lookup with
  | .getItem key => some key
  | .query ingestionId =>
      if text? item "ingestion_id" = some ingestionId ∧
          text? item "sk" = some ("INGESTION#" ++ ingestionId) then
        (text? item "pk").map (.ingestion · ("INGESTION#" ++ ingestionId))
      else none
  | .nothing | .known _ => none

/-- The item with the attributes set. -/
def setAll (item : Item) (values : List (String × PyJson)) : Item :=
  values.foldl (fun item value => set item value.1 value.2) item

/-- The answer of `put_events`: `FailedEntryCount`, and of each entry `EventId` and
`ErrorMessage`. -/
structure PutEventsResponse where
  failedEntryCount : ℕ
  entries : List (Option String × Option String)

/-- `Boto3EventBridgePublisher.put_event` after the call. -/
def putEvent (response : PutEventsResponse) : Except Raised String :=
  if response.failedEntryCount ≠ 0 then
    let firstError :=
      match response.entries with
      | (_, message) :: _ => message.getD "unknown"
      | [] => "unknown"
    .error (.runtimeError
      s!"EventBridge put_events rejected {response.failedEntryCount} entry: {firstError}")
  else
    match response.entries with
    | [] => .error (.runtimeError "EventBridge put_events returned no entries")
    | (eventId, _) :: _ =>
        if eventId.getD "" = "" then
          .error (.runtimeError "EventBridge put_events returned no EventId")
        else .ok (eventId.getD "")

/-- How the call ends that sends: an answer, or an error after which it may have been taken. -/
inductive SendEnd where
  | putEvents (response : PutEventsResponse)
  | terminateJob (requestId : Option String)
  | raised (taken : Bool) (error : String)

/-- Whether what is sent has been taken, and its id. -/
def Effect.answer : Effect → SendEnd → Option (Bool × Except Raised String)
  | .event .., .putEvents response => some (response.failedEntryCount = 0, putEvent response)
  | .termination .., .terminateJob requestId => some (true, .ok (requestId.getD ""))
  | _, .raised taken error => some (taken, .error (.callError error))
  | _, _ => none

/-! ## The run -/

/-- What a request has done. -/
inductive Entry (ι : Type) where
  | updated (id : ι) (key : RowKey) (before : Item) (values : List (String × PyJson))
  | sent (id : ι) (effect : Effect)

variable {ι : Type} [DecidableEq ι]

/-- The request that has done it. -/
def Entry.id : Entry ι → ι
  | .updated id .. | .sent id _ => id

/-- The rows of the tables, the requests, and what they have done, in order. -/
structure World (ι : Type) where
  rows : Table RowKey Item
  requests : ι → Option Request
  log : List (Entry ι)

/-- A step: a request arrives, its read, its update or its sending ends, or another service writes or
deletes a row. -/
inductive Action (ι : Type) where
  | submit (id : ι) (submission : Submission)
  | found (id : ι) (answer : Except String (Option Item))
  | update (id : ι) (now : String) (fault : Fault) (error : String)
  | send (id : ι) (now : String) (ending : SendEnd)
  | other (key : RowKey) (item : Option Item)

/-- The request goes on. -/
def World.advance (world : World ι) (id : ι) (request : Request) (phase : Phase) : World ι :=
  { world with requests := Function.update world.requests id (some { request with phase }) }

/-- What an update of a row comes to that asks that the row exists. Repeating it does no more. -/
def updateRow (fault : Fault) (rows : Table RowKey Item) (key : RowKey)
    (values : List (String × PyJson)) : Outcome (Table RowKey Item) :=
  match rows.lookup key with
  | none => send fault rows none
  | some item => put fault rows (rows.insert key (setAll item values))

/-- The handler after its update. -/
def Handler.updated (handler : Handler) (stamp : Stamp) (existing before : Item) : Phase :=
  let after := setAll before (handler.sets stamp)
  match handler.effect with
  | none => .ended (.ok (handler.result stamp existing after ""))
  | some _ => .sending stamp.reason (some (stamp.now, existing, after))

/-- One step. -/
def step (str : PyJson → String) (world : World ι) : Action ι → Option (World ι)
  | .submit id submission =>
      if world.requests id = none then
        (handlerOf submission).map fun handler =>
          let phase := handler.start (reasonOf str submission.request.params)
          world.advance id ⟨handler, submission.actorId, phase⟩ phase
      else none
  | .found id answer =>
      (world.requests id).bind fun request =>
        match request.phase with
        | .finding reason =>
            match answer with
            | .error error => some (world.advance id request (.ended (.error (.callError error))))
            | .ok none =>
                some (world.advance id request
                  (.ended (.error (.notFound request.handler.notFound))))
            | .ok (some item) =>
                (request.handler.lookup.target item).map fun key =>
                  world.advance id request (.updating reason key item)
        | _ => none
  | .update id now fault error =>
      (world.requests id).bind fun request =>
        match request.phase with
        | .updating reason key existing =>
            let stamp : Stamp := ⟨now, reason, request.actor⟩
            let values := request.handler.sets stamp
            let outcome := updateRow fault world.rows key values
            let before := (world.rows.lookup key).getD []
            let log := if outcome.applied then world.log ++ [.updated id key before values]
              else world.log
            let phase :=
              match outcome.reply with
              | .ok => request.handler.updated stamp existing before
              | .conditionalCheckFailed => .ended (.error (.notFound request.handler.notFound))
              | .failed => .ended (.error (.callError error))
            some ({ world with rows := outcome.table, log }.advance id request phase)
        | _ => none
  | .send id now ending =>
      (world.requests id).bind fun request =>
        match request.phase, request.handler.effect with
        | .sending reason behind, some effect =>
            let stamp : Stamp := ⟨(behind.map Prod.fst).getD now, reason, request.actor⟩
            let (existing, after) := (behind.map Prod.snd).getD ([], [])
            ((effect stamp).answer ending).map fun (taken, answer) =>
              let log := if taken then world.log ++ [.sent id (effect stamp)] else world.log
              let answer := answer.map (request.handler.result stamp existing after)
              { world with log }.advance id request (.ended answer)
        | _, _ => none
  | .other key item =>
      some { world with
        rows :=
          match item with
          | some item => world.rows.insert key item
          | none => world.rows.erase key }

/-! ## What a step does -/

variable {str : PyJson → String} {world after : World ι} {action : Action ι} {id : ι}

/-- What becomes of a request in a step: its phase, what it has done, and the rows. -/
inductive Moves (handler : Handler) (actor : String) (id : ι) (rows : Table RowKey Item) :
    Phase → Phase → List (Entry ι) → Table RowKey Item → Prop
  | unread (reason error : String) :
      Moves handler actor id rows (.finding reason) (.ended (.error (.callError error))) [] rows
  | missing (reason : String) :
      Moves handler actor id rows (.finding reason)
        (.ended (.error (.notFound handler.notFound))) [] rows
  | read {reason : String} {key : RowKey} {item : Item}
      (target : handler.lookup.target item = some key) :
      Moves handler actor id rows (.finding reason) (.updating reason key item) [] rows
  | updated (now : String) {reason : String} {key : RowKey} {existing before : Item}
      (held : rows.lookup key = some before) :
      Moves handler actor id rows (.updating reason key existing)
        (handler.updated ⟨now, reason, actor⟩ existing before)
        [.updated id key before (handler.sets ⟨now, reason, actor⟩)]
        (rows.insert key (setAll before (handler.sets ⟨now, reason, actor⟩)))
  | unanswered (now error : String) {reason : String} {key : RowKey} {existing before : Item}
      (held : rows.lookup key = some before) :
      Moves handler actor id rows (.updating reason key existing)
        (.ended (.error (.callError error)))
        [.updated id key before (handler.sets ⟨now, reason, actor⟩)]
        (rows.insert key (setAll before (handler.sets ⟨now, reason, actor⟩)))
  | lost (error : String) {reason : String} {key : RowKey} {existing : Item} :
      Moves handler actor id rows (.updating reason key existing)
        (.ended (.error (.callError error))) [] rows
  | gone {reason : String} {key : RowKey} {existing : Item} :
      Moves handler actor id rows (.updating reason key existing)
        (.ended (.error (.notFound handler.notFound))) [] rows
  | sent {reason now : String} {behind : Option (String × Item × Item)} {effect : Stamp → Effect}
      {ending : SendEnd} {taken : Bool} {answer : Except Raised String}
      (sends : handler.effect = some effect)
      (answered : (effect ⟨(behind.map Prod.fst).getD now, reason, actor⟩).answer ending =
        some (taken, answer)) :
      Moves handler actor id rows (.sending reason behind)
        (.ended (answer.map (handler.result ⟨(behind.map Prod.fst).getD now, reason, actor⟩
          ((behind.map Prod.snd).getD ([], [])).1 ((behind.map Prod.snd).getD ([], [])).2)))
        (if taken then [.sent id (effect ⟨(behind.map Prod.fst).getD now, reason, actor⟩)] else [])
        rows

/-- The world after a move of a request. -/
def World.moved (world : World ι) (id : ι) (request : Request) (phase : Phase)
    (entries : List (Entry ι)) (rows : Table RowKey Item) : World ι :=
  ⟨rows, Function.update world.requests id (some { request with phase }), world.log ++ entries⟩

/-- **A step** is the arrival of a request, a move of one, or a write of another service. -/
theorem step_cases (taken : step str world action = some after) :
    (∃ key item, action = .other key item ∧
      after = { world with rows := (item.elim (world.rows.erase key) (world.rows.insert key ·)) }) ∨
    (∃ id submission handler, action = .submit id submission ∧ world.requests id = none ∧
      handlerOf submission = some handler ∧
      after = world.moved id ⟨handler, submission.actorId, .finding ""⟩
        (handler.start (reasonOf str submission.request.params)) [] world.rows) ∨
    ∃ id request phase entries rows, world.requests id = some request ∧
      Moves request.handler request.actor id world.rows request.phase phase entries rows ∧
      after = world.moved id request phase entries rows := by
  cases action with
  | other key item =>
      refine Or.inl ⟨key, item, rfl, ?_⟩
      cases item <;> exact (Option.some.inj taken).symm
  | submit id submission =>
      by_cases fresh : world.requests id = none
      · rw [step, if_pos fresh] at taken
        obtain ⟨handler, found, rfl⟩ := Option.map_eq_some_iff.mp taken
        refine Or.inr (Or.inl ⟨id, submission, handler, rfl, fresh, found, ?_⟩)
        simp [World.advance, World.moved]
      · rw [step, if_neg fresh] at taken
        cases taken
  | found id answer =>
      obtain ⟨request, held, taken⟩ := Option.bind_eq_some_iff.mp taken
      obtain ⟨handler, actor, phase⟩ := request
      cases phase with
      | finding reason =>
          refine Or.inr (Or.inr ⟨id, ⟨handler, actor, .finding reason⟩, ?_⟩)
          cases answer with
          | error error =>
              cases taken
              refine ⟨_, [], world.rows, held, .unread reason error, ?_⟩
              simp [World.advance, World.moved]
          | ok item =>
              cases item with
              | none =>
                  cases taken
                  refine ⟨_, [], world.rows, held, .missing reason, ?_⟩
                  simp [World.advance, World.moved]
              | some item =>
                  obtain ⟨key, target, rfl⟩ := Option.map_eq_some_iff.mp taken
                  refine ⟨_, [], world.rows, held, .read target, ?_⟩
                  simp [World.advance, World.moved]
      | updating | sending | ended => cases taken
  | update id now fault error =>
      obtain ⟨request, held, taken⟩ := Option.bind_eq_some_iff.mp taken
      obtain ⟨handler, actor, phase⟩ := request
      cases phase with
      | updating reason key existing =>
          refine Or.inr (Or.inr ⟨id, ⟨handler, actor, .updating reason key existing⟩, ?_⟩)
          replace taken := Option.some.inj taken
          subst taken
          cases row : world.rows.lookup key with
          | none =>
              cases fault with
              | none | retried =>
                  refine ⟨_, [], world.rows, held, .gone, ?_⟩
                  simp [World.advance, World.moved, updateRow, row, send]
              | lost | unacked =>
                  refine ⟨_, [], world.rows, held, .lost error, ?_⟩
                  simp [World.advance, World.moved, updateRow, row, send]
          | some before =>
              cases fault with
              | none | retried =>
                  refine ⟨_, _, _, held, .updated now row, ?_⟩
                  simp [World.advance, World.moved, updateRow, row, put]
              | lost =>
                  refine ⟨_, [], world.rows, held, .lost error, ?_⟩
                  simp [World.advance, World.moved, updateRow, row, put]
              | unacked =>
                  refine ⟨_, _, _, held, .unanswered now error row, ?_⟩
                  simp [World.advance, World.moved, updateRow, row, put]
      | finding | sending | ended => cases taken
  | send id now ending =>
      obtain ⟨request, held, taken⟩ := Option.bind_eq_some_iff.mp taken
      obtain ⟨handler, actor, phase⟩ := request
      cases phase with
      | sending reason behind =>
          cases sends : handler.effect with
          | none => simp [sends] at taken
          | some effect =>
              simp only [sends] at taken
              obtain ⟨⟨took, answer⟩, answered, rfl⟩ := Option.map_eq_some_iff.mp taken
              refine Or.inr (Or.inr ⟨id, _, _, _, _, held, .sent sends answered, ?_⟩)
              cases took <;> simp [World.advance, World.moved]
      | finding | updating | ended => simp at taken

/-! ## What the answers tell -/

/-- The handler may update the row. -/
def Lookup.Targets (lookup : Lookup) (key : RowKey) : Prop :=
  match lookup with
  | .nothing => False
  | .known own | .getItem own => key = own
  | .query ingestionId => ∃ pk, key = .ingestion pk ("INGESTION#" ++ ingestionId)

/-- The update of a handler, if it has a row. -/
def Handler.updates (handler : Handler) (id : ι) (key : RowKey) (before : Item) (stamp : Stamp) :
    List (Entry ι) :=
  if handler.lookup = .nothing then [] else [.updated id key before (handler.sets stamp)]

/-- What a handler sends, if it does. -/
def Handler.sends (handler : Handler) (id : ι) (stamp : Stamp) : List (Entry ι) :=
  (handler.effect.map fun effect => Entry.sent id (effect stamp)).toList

/-- What the phase of a request tells of what the request has done so far: nothing before its update
has been answered, its update before it sends, all of it once and in this order when it has returned,
nothing when no row has been found or no reason was given, and else a first part of it, if
anything. -/
def Tells (id : ι) (request : Request) (done : List (Entry ι)) : Prop :=
  let handler := request.handler
  match request.phase with
  | .finding reason => reason ≠ "" ∧ done = []
  | .updating reason key _ => reason ≠ "" ∧ handler.lookup.Targets key ∧ done = []
  | .sending reason none => reason ≠ "" ∧ handler.lookup = .nothing ∧ done = []
  | .sending reason (some (now, _, after)) =>
      reason ≠ "" ∧ ∃ key before, handler.lookup.Targets key ∧
        after = setAll before (handler.sets ⟨now, reason, request.actor⟩) ∧
        done = [.updated id key before (handler.sets ⟨now, reason, request.actor⟩)]
  | .ended (.ok result) =>
      ∃ stamp key before existing after token, stamp.reason ≠ "" ∧ stamp.actor = request.actor ∧
        (handler.lookup ≠ .nothing →
          handler.lookup.Targets key ∧ after = setAll before (handler.sets stamp)) ∧
        done = handler.updates id key before stamp ++ handler.sends id stamp ∧
        result = handler.result stamp existing after token
  | .ended (.error (.valueError _)) | .ended (.error (.notFound _)) => done = []
  | .ended (.error _) =>
      done = [] ∨ ∃ stamp key before, stamp.reason ≠ "" ∧ stamp.actor = request.actor ∧
        (handler.lookup ≠ .nothing → handler.lookup.Targets key) ∧
        done <+: handler.updates id key before stamp ++ handler.sends id stamp

/-- What the request has done. -/
def World.doneBy (world : World ι) (id : ι) : List (Entry ι) := world.log.filter (·.id = id)

variable {handler : Handler} {actor reason : String} {item : Item} {key : RowKey}
  {rows laterRows : Table RowKey Item} {phase earlier : Phase} {entries done : List (Entry ι)}

/-- A row that a lookup comes to is one of its targets. -/
theorem targets_of_target {lookup : Lookup} (target : lookup.target item = some key) :
    lookup.Targets key := by
  cases lookup with
  | nothing | known => cases target
  | getItem own => exact (Option.some.inj target).symm
  | query ingestionId =>
      rw [Lookup.target] at target
      split at target
      · obtain ⟨pk, -, rfl⟩ := Option.map_eq_some_iff.mp target
        exact ⟨pk, rfl⟩
      · cases target

theorem ne_nothing_of_targets {lookup : Lookup} (targets : lookup.Targets key) :
    lookup ≠ .nothing := by
  rintro rfl
  exact targets

omit [DecidableEq ι] in
theorem updates_of_targets (targets : handler.lookup.Targets key) (before : Item) (stamp : Stamp) :
    handler.updates id key before stamp = [.updated id key before (handler.sets stamp)] :=
  if_neg (ne_nothing_of_targets targets)

omit [DecidableEq ι] in
/-- The start of a handler. -/
theorem tells_start : Tells id ⟨handler, actor, handler.start reason⟩ [] := by
  unfold Handler.start
  by_cases blank : reason = ""
  · rw [if_pos blank]
    rfl
  · rw [if_neg blank]
    cases lookup : handler.lookup with
    | nothing => exact ⟨blank, lookup, rfl⟩
    | known key =>
        refine ⟨blank, ?_, rfl⟩
        change handler.lookup.Targets key
        rw [lookup]
        rfl
    | getItem | query => exact ⟨blank, rfl⟩

/-- What is sent has been taken when its id comes back, and the errors are those of the sending. -/
theorem answer_cases {effect : Effect} {ending : SendEnd} {taken : Bool}
    {answer : Except Raised String} (answered : effect.answer ending = some (taken, answer)) :
    (∃ token, answer = .ok token ∧ taken = true) ∨
      ∃ message, answer = .error (.runtimeError message) ∨ answer = .error (.callError message) := by
  unfold Effect.answer at answered
  split at answered
  · rename_i response
    cases answered
    unfold putEvent
    by_cases failed : response.failedEntryCount = 0
    · rw [if_neg (not_not.mpr failed), decide_eq_true failed]
      split
      · exact Or.inr ⟨_, Or.inl rfl⟩
      · split
        · exact Or.inr ⟨_, Or.inl rfl⟩
        · exact Or.inl ⟨_, rfl, rfl⟩
    · rw [if_pos failed]
      exact Or.inr ⟨_, Or.inl rfl⟩
  · cases answered
    exact Or.inl ⟨_, rfl, rfl⟩
  · cases answered
    exact Or.inr ⟨_, Or.inr rfl⟩
  · cases answered

omit [DecidableEq ι] in
/-- The end of a handler that sends. -/
theorem tells_sent {stamp : Stamp} {before : Item} (existing after : Item)
    {effect : Stamp → Effect} {ending : SendEnd} {taken : Bool} {answer : Except Raised String} (given : stamp.reason ≠ "")
    (targets : handler.lookup ≠ .nothing →
      handler.lookup.Targets key ∧ after = setAll before (handler.sets stamp))
    (sends : handler.effect = some effect)
    (answered : (effect stamp).answer ending = some (taken, answer)) :
    Tells id ⟨handler, stamp.actor, .ended (answer.map (handler.result stamp existing after))⟩
      (handler.updates id key before stamp ++ if taken then [.sent id (effect stamp)] else []) := by
  have sent : handler.sends id stamp = [.sent id (effect stamp)] := by
    rw [Handler.sends, sends]
    rfl
  have part : ∃ own target held, own.reason ≠ "" ∧ own.actor = stamp.actor ∧
      (handler.lookup ≠ .nothing → handler.lookup.Targets target) ∧
      (handler.updates id key before stamp ++ if taken then [.sent id (effect stamp)] else []) <+:
        handler.updates id target held own ++ handler.sends id own := by
    refine ⟨stamp, key, before, given, rfl, fun has => (targets has).1, ?_⟩
    rw [sent]
    cases taken with
    | true => exact List.prefix_rfl
    | false => exact (List.append_nil _).symm ▸ List.prefix_append _ _
  rcases answer_cases answered with ⟨token, rfl, rfl⟩ | ⟨message, rfl | rfl⟩
  · exact ⟨stamp, key, before, existing, after, token, given, rfl, targets, by rw [sent]; rfl, rfl⟩
  · exact Or.inr part
  · exact Or.inr part

omit [DecidableEq ι] in
/-- The move of a request makes its phase tell of what it has then done. -/
theorem tells_move {request : Request} (tells : Tells id request done)
    (moved : Moves request.handler request.actor id rows request.phase phase entries laterRows) :
    Tells id { request with phase } (done ++ entries) := by
  obtain ⟨handler, actor, before⟩ := request
  cases moved with
  | unread reason error =>
      obtain ⟨-, rfl⟩ := tells
      exact Or.inl rfl
  | missing reason =>
      obtain ⟨-, rfl⟩ := tells
      rfl
  | read target =>
      obtain ⟨given, rfl⟩ := tells
      exact ⟨given, targets_of_target target, rfl⟩
  | updated now held =>
      rename_i reason key existing before
      obtain ⟨given, targets, rfl⟩ := tells
      change Tells id ⟨handler, actor, handler.updated ⟨now, reason, actor⟩ existing before⟩ _
      unfold Handler.updated
      cases sends : handler.effect with
      | none =>
          refine ⟨⟨now, reason, actor⟩, key, before, existing, _, "", given, rfl,
            fun _ => ⟨targets, rfl⟩, ?_, rfl⟩
          rw [updates_of_targets targets, Handler.sends, sends]
          rfl
      | some effect => exact ⟨given, key, before, targets, rfl, rfl⟩
  | unanswered now error held =>
      rename_i reason key existing before
      obtain ⟨given, targets, rfl⟩ := tells
      refine Or.inr ⟨⟨now, reason, actor⟩, key, before, given, rfl, fun _ => targets, ?_⟩
      rw [updates_of_targets targets]
      exact List.prefix_append _ _
  | lost error =>
      obtain ⟨-, -, rfl⟩ := tells
      exact Or.inl rfl
  | gone =>
      obtain ⟨-, -, rfl⟩ := tells
      rfl
  | sent sends answered =>
      rename_i reason now behind effect ending taken answer
      cases behind with
      | none =>
          obtain ⟨given, nothing, rfl⟩ := tells
          have noRow : handler.updates id (.session "") [] ⟨now, reason, actor⟩ = [] := if_pos nothing
          have told : Tells id _ (handler.updates id (.session "") [] ⟨now, reason, actor⟩ ++ _) :=
            tells_sent [] [] given (fun has => absurd nothing has) sends answered
          rw [noRow] at told
          exact told
      | some behind =>
          obtain ⟨at_, existing, after⟩ := behind
          obtain ⟨given, key, before, targets, same, rfl⟩ := tells
          have told : Tells id _ (handler.updates id key before ⟨at_, reason, actor⟩ ++ _) :=
            tells_sent existing after given (fun _ => ⟨targets, same⟩) sends answered
          rw [updates_of_targets targets] at told
          exact told

omit [DecidableEq ι] in
/-- What a request does in a move is its own. -/
theorem id_of_move (moved : Moves handler actor id rows earlier phase entries laterRows) :
    ∀ entry ∈ entries, entry.id = id := by
  intro entry member
  cases moved with
  | unread | missing | read | lost | gone => cases member
  | updated | unanswered =>
      obtain rfl := List.mem_singleton.mp member
      rfl
  | sent =>
      split at member
      · obtain rfl := List.mem_singleton.mp member
        rfl
      · cases member

/-- The requests of a world tell of what they have done. -/
def World.Told (world : World ι) : Prop :=
  ∀ id, match world.requests id with
    | none => world.doneBy id = []
    | some request => Tells id request (world.doneBy id)

theorem told_moved {request : Request} (told : world.Told)
    (own : ∀ entry ∈ entries, entry.id = id)
    (tells : Tells id { request with phase } (world.doneBy id ++ entries)) :
    (world.moved id request phase entries rows).Told := by
  intro other
  by_cases same : other = id
  · subst same
    have kept : entries.filter (·.id = other) = entries :=
      List.filter_eq_self.mpr fun entry member => decide_eq_true (own entry member)
    simp only [World.moved, World.doneBy, Function.update_self, List.filter_append, kept]
    exact tells
  · have dropped : entries.filter (·.id = other) = [] := by
      apply List.filter_eq_nil_iff.mpr
      intro entry member held
      exact same ((of_decide_eq_true held).symm.trans (own entry member))
    have before := told other
    simp only [World.moved, World.doneBy, Function.update_of_ne same, List.filter_append, dropped,
      List.append_nil]
    exact before

theorem told_step (told : world.Told) (taken : step str world action = some after) : after.Told := by
  rcases step_cases taken with ⟨key, item, -, rfl⟩ | ⟨id, submission, handler, -, fresh, -, rfl⟩ |
    ⟨id, request, phase, entries, rows, held, moved, rfl⟩
  · exact told
  · have nothing := told id
    rw [fresh] at nothing
    apply told_moved told
    · exact fun _ member => nomatch member
    · rw [nothing]
      exact tells_start
  · have tells := told id
    rw [held] at tells
    exact told_moved told (id_of_move moved) (tells_move tells moved)

/-- One session, and no requests. -/
def oneSession : World ℕ where
  rows := AList.insert (.session "s1")
    [("session_id", .str "s1"), ("user_id", .str "u1"), ("status", .str "active")] ∅
  requests := fun _ => none
  log := []

/-- An operation on the session for a reason. -/
def against (operation : Operation) : Submission :=
  ⟨operation, "s1", "admin", ⟨"k1", "", [("reason", .str " abuse ")]⟩⟩

/-- The session is terminated while a kill of it has read the row; the kill is then sent. -/
def race : List (Action ℕ) :=
  [.submit 0 (against .killStreamingSession), .submit 1 (against .terminateSession),
    .found 0 (.ok (some [("status", .str "active")])), .update 1 "12:00:01" .unacked "timed out",
    .update 0 "12:00:02" .none "", .send 0 "" (.putEvents ⟨0, [(some "e1", none)]⟩)]

/-- The world after the race. -/
def raced : World ℕ := (execute (step fun _ => "") oneSession race).getD oneSession

omit [DecidableEq ι] in
theorem lookup_setAll {name : String} {values : List (String × PyJson)}
    (spared : name ∉ values.map Prod.fst) : (setAll item values).lookup name = item.lookup name := by
  induction values generalizing item with
  | nil => rfl
  | cons value rest ih =>
      rw [List.map_cons, List.mem_cons, not_or] at spared
      have later : (setAll item (value :: rest)).lookup name =
          (set item value.1 value.2).lookup name := ih spared.2
      rw [later, PyJson.set, PyJson.lookup_put, if_neg spared.1]

/-- The handler sets no such attribute of such a row. -/
def Handler.Spares (handler : Handler) (key : RowKey) (name : String) : Prop :=
  handler.lookup.Targets key → ∀ stamp, name ∉ (handler.sets stamp).map Prod.fst

/-- No write of another service to the row, and no operation on it that sets the attribute. -/
def Action.Spares (key : RowKey) (name : String) : Action ι → Prop
  | .other written _ => written ≠ key
  | .submit _ submission => ∀ handler, handlerOf submission = some handler → handler.Spares key name
  | _ => True

/-- The requests spare the attribute, the rows that they go to are their targets, and the attribute is
still as it was. -/
structure Kept (start : Table RowKey Item) (key : RowKey) (name : String) (world : World ι) : Prop where
  spares : ∀ id request, world.requests id = some request → request.handler.Spares key name
  targets : ∀ id request reason target existing, world.requests id = some request →
    request.phase = .updating reason target existing → request.handler.lookup.Targets target
  row : (world.rows.lookup key).map (·.lookup name) = (start.lookup key).map (·.lookup name)

variable {start : Table RowKey Item} {name : String}

omit [DecidableEq ι] in
/-- Setting attributes of a row keeps those of it that are spared, and the other rows. -/
theorem row_insert_setAll {target : RowKey} {before : Item} {values : List (String × PyJson)}
    (held : rows.lookup target = some before) (spared : target = key → name ∉ values.map Prod.fst) :
    ((rows.insert target (setAll before values)).lookup key).map (·.lookup name) =
      (rows.lookup key).map (·.lookup name) := by
  by_cases same : key = target
  · subst same
    rw [AList.lookup_insert, held, Option.map_some, Option.map_some, lookup_setAll (spared rfl)]
  · rw [AList.lookup_insert_ne same]

omit [DecidableEq ι] in
/-- A move of a request that goes to its targets keeps what the handler spares. -/
theorem row_move (moved : Moves handler actor id rows earlier phase entries laterRows)
    (spares : handler.Spares key name)
    (targets : ∀ reason target existing, earlier = .updating reason target existing →
      handler.lookup.Targets target) :
    (laterRows.lookup key).map (·.lookup name) = (rows.lookup key).map (·.lookup name) := by
  cases moved with
  | unread | missing | read | lost | gone | sent => rfl
  | updated now held | unanswered now error held =>
      apply row_insert_setAll held
      rintro rfl
      exact spares (targets _ _ _ rfl) _

omit [DecidableEq ι] in
/-- A request comes to the update of one of its targets only. -/
theorem targets_move (moved : Moves handler actor id rows earlier phase entries laterRows)
    {target : RowKey} {existing : Item} (updating : phase = .updating reason target existing) :
    handler.lookup.Targets target := by
  cases moved with
  | read target =>
      cases updating
      exact targets_of_target target
  | updated =>
      unfold Handler.updated at updating
      split at updating <;> cases updating
  | unread | missing | lost | gone | sent | unanswered => cases updating

omit [DecidableEq ι] in
theorem targets_start {target : RowKey} {existing : Item} {given : String}
    (updating : handler.start given = .updating reason target existing) :
    handler.lookup.Targets target := by
  unfold Handler.start at updating
  split at updating
  · cases updating
  · cases lookup : handler.lookup with
    | known key =>
        rw [lookup] at updating
        cases updating
        rfl
    | nothing | getItem | query =>
        rw [lookup] at updating
        cases updating

theorem request_moved {other : ι} {request later : Request}
    (held : (world.moved id request phase entries rows).requests other = some later) :
    later = { request with phase } ∨ world.requests other = some later := by
  by_cases same : other = id
  · subst same
    simp only [World.moved, Function.update_self] at held
    exact Or.inl (Option.some.inj held).symm
  · simp only [World.moved, Function.update_of_ne same] at held
    exact Or.inr held

theorem kept_moved {before : World ι} {request : Request} (kept : Kept start key name before)
    (spares : request.handler.Spares key name)
    (targets : ∀ reason target existing, phase = .updating reason target existing →
      request.handler.lookup.Targets target)
    (row : (rows.lookup key).map (·.lookup name) = (before.rows.lookup key).map (·.lookup name)) :
    Kept start key name (before.moved id request phase entries rows) := by
  refine ⟨?_, ?_, row.trans kept.row⟩
  · intro other later held
    rcases request_moved held with rfl | earlier
    · exact spares
    · exact kept.spares other later earlier
  · intro other later reason target existing held updating
    rcases request_moved held with rfl | earlier
    · exact targets reason target existing updating
    · exact kept.targets other later reason target existing earlier updating

theorem kept_step {before : World ι} (kept : Kept start key name before)
    (spares : action.Spares key name) (taken : step str before action = some after) :
    Kept start key name after := by
  rcases step_cases taken with ⟨written, item, rfl, rfl⟩ | ⟨id, submission, handler, rfl, -, found, rfl⟩ |
    ⟨id, request, phase, entries, rows, held, moved, rfl⟩
  · refine ⟨kept.spares, kept.targets, ?_⟩
    rw [← kept.row]
    cases item with
    | none => exact congrArg _ (AList.lookup_erase_ne (Ne.symm spares))
    | some item => exact congrArg _ (AList.lookup_insert_ne (Ne.symm spares))
  · exact kept_moved kept (spares handler found) (fun _ _ _ => targets_start) rfl
  · have targets := fun reason target existing => kept.targets id request reason target existing held
    have spared := kept.spares id request held
    exact kept_moved kept spared (fun _ _ _ => targets_move moved) (row_move moved spared targets)

end Panakoes.AdminApi.OperationHandlers
