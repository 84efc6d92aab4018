import Mathlib.Logic.Function.Basic
import Panakoes.Foundation.ConditionalWrite
import Panakoes.Foundation.Run
import Panakoes.Foundation.Table

/-! # The routes of the GPU spawner

`POST /spawn` launches an instance, `GET` describes one and `DELETE` terminates one that has the tag
of this spawner. The consumer of the spawn queue launches and evicts instances beside them. Requests
of several processes interleave at each call. EC2 may show what has been true of an instance at any
time before, and a call that ends with an error may have been applied.
-/

namespace Panakoes.GpuSpawner.InstanceRoutes

open Transition ConditionalWrite

/-! ## EC2 -/

/-- `InstanceState`. -/
inductive InstanceState where
  | pending
  | running
  | shuttingDown
  | terminated
  | stopping
  | stopped
  | unknown
  deriving DecidableEq

/-- `_coerce_state`. -/
def coerceState : Option String → InstanceState
  | some "pending" => .pending
  | some "running" => .running
  | some "shutting-down" => .shuttingDown
  | some "terminated" => .terminated
  | some "stopping" => .stopping
  | some "stopped" => .stopped
  | _ => .unknown

/-- A tag in an answer. What is not a text is left out. -/
structure Tag where
  key : Option String
  value : Option String
  deriving DecidableEq

/-- An instance in the answer of `describe_instances`. -/
structure Described where
  instanceId : Option String
  state : Option String
  tags : List Tag
  deriving DecidableEq

/-- The error of a call to EC2, and its text. -/
structure ClientError where
  code : Option String
  message : Option String
  text : String

/-- `RunInstancesFailure`. -/
structure RunInstancesFailure where
  errorCode : String
  awsErrorCode : String
  awsMessage : String

/-- `RUN_INSTANCES_ERROR_MAP`. -/
def runInstancesErrorMap : List (String × String) :=
  [("InsufficientInstanceCapacity", "spot-no-capacity"),
    ("MaxSpotInstanceCountExceeded", "spot-no-capacity"),
    ("SpotMaxPriceTooLow", "spot-no-capacity"),
    ("InvalidAMIID.NotFound", "ami-missing"),
    ("InvalidAMIID.Malformed", "ami-missing"),
    ("InvalidAMIID.Unavailable", "ami-missing"),
    ("VcpuLimitExceeded", "quota-exceeded"),
    ("RequestLimitExceeded", "quota-exceeded"),
    ("InstanceLimitExceeded", "quota-exceeded"),
    ("InvalidIamInstanceProfile.NotFound", "iam-not-ready"),
    ("InvalidIamInstanceProfile.Malformed", "iam-not-ready")]

/-- `classify_run_instances_error`. -/
def classifyRunInstancesError (error : ClientError) : RunInstancesFailure :=
  let awsCode := error.code.getD ""
  let awsMessage := error.message.getD ""
  { errorCode := (runInstancesErrorMap.lookup awsCode).getD "unknown-spawn-failure"
    awsErrorCode := awsCode
    awsMessage := if awsMessage = "" then error.text else awsMessage }

/-- How `run_instances` ends: the ids of the instances, or an error. -/
inductive RunEnd where
  | answered (instances : List (Option String))
  | clientError (error : ClientError)
  | raised (error : String)

/-- How `describe_instances` ends: the instances of the reservations, or an error. -/
inductive DescribeEnd where
  | answered (reservations : List (List Described))
  | clientError
  | raised (error : String)

/-- How `terminate_instances` ends: the previous and the current state of each instance, or an
error. -/
inductive TerminateEnd where
  | answered (terminating : List (Option String × Option String))
  | raised (error : String)

/-! ## `GpuInstanceManager` -/

/-- `InstanceDetails`. -/
structure InstanceDetails where
  instanceId : String
  state : InstanceState
  tags : Table String String

/-- What a route raises. -/
inductive Raised where
  | forbidden (detail : String)
  | notFound (detail : String)
  | runInstances (failure : RunInstancesFailure)
  | error (message : String)

/-- The tags of this deployment. -/
structure Spawner where
  projectTag : String
  spawnerTag : String

/-- The tags of an instance that `run_instance` launches. -/
def Spawner.launchTags (spawner : Spawner) (sessionId userId : String) : List Tag :=
  [⟨some "Project", some spawner.projectTag⟩, ⟨some "Spawner", some spawner.spawnerTag⟩,
    ⟨some "SessionId", some sessionId⟩, ⟨some "UserId", some userId⟩]

/-- `run_instance`, after the call. -/
def runInstance : RunEnd → Except Raised String
  | .answered [] => .error (.error "ec2:RunInstances returned no instances")
  | .answered (none :: _) => .error (.error "ec2:RunInstances response missing InstanceId")
  | .answered (some instanceId :: _) => .ok instanceId
  | .clientError error => .error (.runInstances (classifyRunInstancesError error))
  | .raised error => .error (.error error)

/-- The tags of an instance as a dictionary. -/
def tagsOf (tags : List Tag) : Table String String :=
  tags.foldl (fun found tag =>
    match tag.key, tag.value with
    | some key, some value => found.insert key value
    | _, _ => found) ∅

/-- `describe_instance`, after the call. -/
def describeInstance (instanceId : String) : DescribeEnd → Except Raised (Option InstanceDetails)
  | .answered reservations =>
      .ok ((reservations.flatten.find? (·.instanceId = some instanceId)).map fun described =>
        ⟨instanceId, coerceState described.state, tagsOf described.tags⟩)
  | .clientError => .ok none
  | .raised error => .error (.error error)

/-- `terminate_instance`, after the call. -/
def terminateInstance : TerminateEnd → Except Raised (InstanceState × InstanceState)
  | .answered [] => .error (.error "ec2:TerminateInstances returned no instances")
  | .answered ((previous, current) :: _) => .ok (coerceState previous, coerceState current)
  | .raised error => .error (.error error)

/-- The ids and sessions of `list_running_instances`. -/
def listRunningInstances (reservations : List (List Described)) : List (String × Option String) :=
  reservations.flatten.filterMap fun described =>
    described.instanceId.map fun instanceId =>
      (instanceId, (described.tags.find? (·.key = some "SessionId")).bind Tag.value)

/-! ## A request -/

/-- `ActorType`. -/
inductive ActorType where
  | user
  | service
  deriving DecidableEq

/-- `AuthenticatedPrincipal`. -/
structure AuthenticatedPrincipal where
  actorId : String
  actorType : ActorType
  sessionId : String

/-- A route with its argument. -/
inductive Route where
  | spawn (sessionId userId : String)
  | state (instanceId : String)
  | terminate (instanceId : String)

/-- The audit event of a route. -/
inductive Event where
  | spawned (actorId instanceId sessionId userId : String)
  | terminated (actorId instanceId : String) (sessionId userId : Option String)
      (previousState currentState : InstanceState)

/-- What a route returns. -/
inductive Response where
  | spawned (instanceId : String)
  | state (instanceId : String) (state : InstanceState) (sessionId userId : Option String)
  | terminated (instanceId : String) (previousState currentState : InstanceState)

/-- What the route returns once its event is recorded. -/
def Event.response : Event → Response
  | .spawned _ instanceId _ _ => .spawned instanceId
  | .terminated _ instanceId _ _ previousState currentState =>
      .terminated instanceId previousState currentState

/-- Where a request is: before a call to EC2, before its event is recorded, or ended. -/
inductive Phase where
  | launching (sessionId userId : String)
  | describing (instanceId : String)
  | checking (instanceId : String)
  | terminating (details : InstanceDetails)
  | recording (event : Event)
  | ended (answer : Except Raised Response)

/-- A request. -/
structure Request where
  principal : AuthenticatedPrincipal
  route : Route
  phase : Phase

/-- `require_service_actor`. -/
def requireServiceActor (principal : AuthenticatedPrincipal) (phase : Phase) : Phase :=
  if principal.actorType ≠ .service then
    .ended (.error (.forbidden "service-actor token required"))
  else phase

/-- A route up to its first call. -/
def Route.start (principal : AuthenticatedPrincipal) : Route → Phase
  | .spawn sessionId userId => requireServiceActor principal (.launching sessionId userId)
  | .state instanceId => .describing instanceId
  | .terminate instanceId => requireServiceActor principal (.checking instanceId)

/-- `spawn_instance`, once the instance is launched. -/
def spawnInstance (principal : AuthenticatedPrincipal) (sessionId userId : String)
    (ending : RunEnd) : Phase :=
  match runInstance ending with
  | .error raised => .ended (.error raised)
  | .ok instanceId =>
      .recording (.spawned principal.actorId instanceId sessionId userId)

/-- `get_instance_state`. -/
def getInstanceState (spawner : Spawner) (principal : AuthenticatedPrincipal) (instanceId : String)
    (ending : DescribeEnd) : Except Raised Response :=
  match describeInstance instanceId ending with
  | .error raised => .error raised
  | .ok none => .error (.notFound "instance not found")
  | .ok (some details) =>
      if details.tags.lookup "Spawner" ≠ some spawner.spawnerTag then
        .error (.notFound "instance not found")
      else if principal.actorType = .user ∧
          details.tags.lookup "SessionId" ≠ some principal.sessionId then
        .error (.notFound "instance not found")
      else
        .ok (.state details.instanceId details.state (details.tags.lookup "SessionId")
          (details.tags.lookup "UserId"))

/-- `terminate_instance`, up to the call that terminates. -/
def checkOwned (spawner : Spawner) (instanceId : String) (ending : DescribeEnd) : Phase :=
  match describeInstance instanceId ending with
  | .error raised => .ended (.error raised)
  | .ok none => .ended (.error (.notFound "instance not found"))
  | .ok (some details) =>
      if details.tags.lookup "Spawner" ≠ some spawner.spawnerTag then
        .ended (.error (.forbidden "instance not owned by this spawner"))
      else .terminating details

/-- `terminate_instance`, after that call. -/
def afterTermination (principal : AuthenticatedPrincipal) (details : InstanceDetails)
    (ending : TerminateEnd) : Phase :=
  match terminateInstance ending with
  | .error raised => .ended (.error raised)
  | .ok (previousState, currentState) =>
      .recording (.terminated principal.actorId details.instanceId
        (details.tags.lookup "SessionId") (details.tags.lookup "UserId") previousState currentState)

/-! ## The run -/

variable {ι : Type}

/-- What has been done: an instance launched or asked to terminate, by a request or by the consumer,
and an event recorded. -/
inductive Entry (ι : Type) where
  | launched (by_ : Option ι) (instanceId sessionId userId : String)
  | asked (by_ : Option ι) (instanceId : String)
  | recorded (id : ι) (event : Event)

/-- What EC2 has shown of instances at any time, the requests, and what has been done, in order. -/
structure World (ι : Type) where
  shown : List Described
  requests : ι → Option Request
  log : List (Entry ι)

/-- A step: a request arrives, or its call ends; the consumer launches an instance, or asks to
terminate one that it has listed; someone else changes an instance, or it changes by itself. -/
inductive Action (ι : Type) where
  | submit (id : ι) (principal : AuthenticatedPrincipal) (route : Route)
  | run (id : ι) (launched : Option String) (ending : RunEnd)
  | describe (id : ι) (ending : DescribeEnd)
  | terminate (id : ι) (ending : TerminateEnd)
  | record (id : ι) (fault : Fault) (error : String)
  | consume (instanceId sessionId userId : String)
  | evict (reservations : List (List Described)) (instanceId : String)
  | other (described : Described)

/-- No instance of this id has been shown. -/
def World.Fresh (world : World ι) (instanceId : String) : Prop :=
  ∀ described ∈ world.shown, described.instanceId ≠ some instanceId

instance (world : World ι) (instanceId : String) : Decidable (world.Fresh instanceId) :=
  inferInstanceAs (Decidable (∀ described ∈ world.shown, _))

/-- What EC2 answers about a launch is so. -/
def RunEnd.Tells (launched : Option String) : RunEnd → Prop
  | .answered (some instanceId :: _) => launched = some instanceId
  | _ => True

instance (launched : Option String) : DecidablePred (RunEnd.Tells launched)
  | .answered (some instanceId :: _) => inferInstanceAs (Decidable (launched = some instanceId))
  | .answered [] | .answered (none :: _) | .clientError _ | .raised _ => .isTrue trivial

/-- EC2 answers with what it has shown. -/
def World.Shows (world : World ι) : DescribeEnd → Prop
  | .answered reservations => ∀ described ∈ reservations.flatten, described ∈ world.shown
  | .clientError | .raised _ => True

instance (world : World ι) : DecidablePred world.Shows
  | .answered reservations =>
      inferInstanceAs (Decidable (∀ described ∈ reservations.flatten, _))
  | .clientError | .raised _ => .isTrue trivial

/-- The instance has the tag of the spawner. -/
def Described.Stamped (spawner : Spawner) (described : Described) : Prop :=
  ⟨some "Spawner", some spawner.spawnerTag⟩ ∈ described.tags

/-- The filters of `list_running_instances`. -/
def Described.Listed (spawner : Spawner) (described : Described) : Prop :=
  described.Stamped spawner ∧ described.state ∈ [some "pending", some "running"]

instance (spawner : Spawner) : DecidablePred (Described.Stamped spawner) :=
  fun described => inferInstanceAs (Decidable (_ ∈ described.tags))

instance (spawner : Spawner) : DecidablePred (Described.Listed spawner) :=
  fun _ => inferInstanceAs (Decidable (_ ∧ _))

/-- EC2 shows an instance. -/
def World.show_ (world : World ι) (described : Described) : World ι :=
  { world with shown := world.shown ++ [described] }

/-- Something has been done. -/
def World.note (world : World ι) (entry : Entry ι) : World ι :=
  { world with log := world.log ++ [entry] }

/-- An instance is launched for a session. -/
def World.launch (world : World ι) (spawner : Spawner) (by_ : Option ι)
    (instanceId sessionId userId : String) : World ι :=
  (world.show_ ⟨some instanceId, some "pending", spawner.launchTags sessionId userId⟩).note
    (.launched by_ instanceId sessionId userId)

variable [DecidableEq ι]

/-- The request goes on. -/
def World.advance (world : World ι) (id : ι) (request : Request) (phase : Phase) : World ι :=
  { world with requests := Function.update world.requests id (some { request with phase }) }

/-- One step. -/
def step (spawner : Spawner) (world : World ι) : Action ι → Option (World ι)
  | .submit id principal route =>
      if world.requests id = none then
        some (world.advance id ⟨principal, route, route.start principal⟩ (route.start principal))
      else none
  | .run id launched ending =>
      (world.requests id).bind fun request =>
        match request.phase with
        | .launching sessionId userId =>
            let phase := spawnInstance request.principal sessionId userId ending
            if ending.Tells launched then
              match launched with
              | none => some (world.advance id request phase)
              | some instanceId =>
                  if world.Fresh instanceId then
                    some ((world.launch spawner (some id) instanceId sessionId userId).advance id
                      request phase)
                  else none
            else none
        | _ => none
  | .describe id ending =>
      (world.requests id).bind fun request =>
        if world.Shows ending then
          match request.phase with
          | .describing instanceId =>
              some (world.advance id request
                (.ended (getInstanceState spawner request.principal instanceId ending)))
          | .checking instanceId =>
              some (world.advance id request (checkOwned spawner instanceId ending))
          | _ => none
        else none
  | .terminate id ending =>
      (world.requests id).bind fun request =>
        match request.phase with
        | .terminating details =>
            some ((world.note (.asked (some id) details.instanceId)).advance id request
              (afterTermination request.principal details ending))
        | _ => none
  | .record id fault error =>
      (world.requests id).bind fun request =>
        match request.phase with
        | .recording event =>
            let outcome := put fault world (world.note (.recorded id event))
            let answer :=
              match outcome.reply with
              | .ok => .ok event.response
              | .conditionalCheckFailed | .failed => .error (.error error)
            some (outcome.table.advance id request (.ended answer))
        | _ => none
  | .consume instanceId sessionId userId =>
      if world.Fresh instanceId then
        some (world.launch spawner none instanceId sessionId userId)
      else none
  | .evict reservations instanceId =>
      if (∀ described ∈ reservations.flatten, described ∈ world.shown ∧ described.Listed spawner) ∧
          instanceId ∈ (listRunningInstances reservations).map Prod.fst then
        some (world.note (.asked none instanceId))
      else none
  | .other described => some (world.show_ described)

/-! ## What a step does -/

variable {spawner : Spawner} {world after : World ι} {action : Action ι} {id : ι}
  {principal : AuthenticatedPrincipal} {phase : Phase}

/-- What becomes of a request in a step: its phase, and the world but for that. -/
inductive Moves (spawner : Spawner) (world : World ι) (id : ι) (principal : AuthenticatedPrincipal) :
    Phase → Phase → World ι → Prop
  | unlaunched {sessionId userId : String} {ending : RunEnd} (tells : ending.Tells none) :
      Moves spawner world id principal (.launching sessionId userId)
        (spawnInstance principal sessionId userId ending) world
  | launched {instanceId sessionId userId : String} {ending : RunEnd}
      (tells : ending.Tells (some instanceId)) (fresh : world.Fresh instanceId) :
      Moves spawner world id principal (.launching sessionId userId)
        (spawnInstance principal sessionId userId ending)
        (world.launch spawner (some id) instanceId sessionId userId)
  | described {instanceId : String} {ending : DescribeEnd} (shows : world.Shows ending) :
      Moves spawner world id principal (.describing instanceId)
        (.ended (getInstanceState spawner principal instanceId ending)) world
  | checked {instanceId : String} {ending : DescribeEnd} (shows : world.Shows ending) :
      Moves spawner world id principal (.checking instanceId)
        (checkOwned spawner instanceId ending) world
  | terminated {details : InstanceDetails} (ending : TerminateEnd) :
      Moves spawner world id principal (.terminating details)
        (afterTermination principal details ending)
        (world.note (.asked (some id) details.instanceId))
  | recorded {event : Event} :
      Moves spawner world id principal (.recording event) (.ended (.ok event.response))
        (world.note (.recorded id event))
  | unrecorded {event : Event} (error : String) :
      Moves spawner world id principal (.recording event)
        (.ended (.error (.error error))) world
  | unanswered {event : Event} (error : String) :
      Moves spawner world id principal (.recording event)
        (.ended (.error (.error error))) (world.note (.recorded id event))

/-- **A step** is the arrival of a request or a move of one, a launch or an eviction by the consumer,
or a change of an instance. -/
theorem step_cases (taken : step spawner world action = some after) :
    (∃ id principal route, action = .submit id principal route ∧ world.requests id = none ∧
      after = world.advance id ⟨principal, route, route.start principal⟩
        (route.start principal)) ∨
    (∃ id request phase later, world.requests id = some request ∧
      Moves spawner world id request.principal request.phase phase later ∧
      after = later.advance id request phase) ∨
    (∃ instanceId sessionId userId, action = .consume instanceId sessionId userId ∧
      world.Fresh instanceId ∧ after = world.launch spawner none instanceId sessionId userId) ∨
    (∃ reservations instanceId, action = .evict reservations instanceId ∧
      (∀ described ∈ reservations.flatten,
        described ∈ world.shown ∧ described.Listed spawner) ∧
      instanceId ∈ (listRunningInstances reservations).map Prod.fst ∧
      after = world.note (.asked none instanceId)) ∨
    ∃ described, action = .other described ∧ after = world.show_ described := by
  unfold step at taken
  cases action with
  | submit id principal route =>
      obtain ⟨fresh, arrived⟩ := Option.ite_none_right_eq_some.mp taken
      cases arrived
      exact Or.inl ⟨id, principal, route, rfl, fresh, rfl⟩
  | run id launched ending =>
      obtain ⟨request, held, taken⟩ := Option.bind_eq_some_iff.mp taken
      refine Or.inr (Or.inl ⟨id, request, ?_⟩)
      split at taken
      · rename_i sessionId userId launching
        obtain ⟨tells, taken⟩ := Option.ite_none_right_eq_some.mp taken
        rw [launching]
        cases launched with
        | none =>
            cases taken
            exact ⟨_, _, held, .unlaunched tells, rfl⟩
        | some instanceId =>
            obtain ⟨fresh, taken⟩ := Option.ite_none_right_eq_some.mp taken
            cases taken
            exact ⟨_, _, held, .launched tells fresh, rfl⟩
      · cases taken
  | describe id ending =>
      obtain ⟨request, held, taken⟩ := Option.bind_eq_some_iff.mp taken
      obtain ⟨shows, taken⟩ := Option.ite_none_right_eq_some.mp taken
      refine Or.inr (Or.inl ⟨id, request, ?_⟩)
      split at taken
      · rename_i instanceId describing
        cases taken
        rw [describing]
        exact ⟨_, _, held, .described shows, rfl⟩
      · rename_i instanceId checking
        cases taken
        rw [checking]
        exact ⟨_, _, held, .checked shows, rfl⟩
      · cases taken
  | terminate id ending =>
      obtain ⟨request, held, taken⟩ := Option.bind_eq_some_iff.mp taken
      refine Or.inr (Or.inl ⟨id, request, ?_⟩)
      split at taken
      · rename_i details terminating
        cases taken
        rw [terminating]
        exact ⟨_, _, held, .terminated ending, rfl⟩
      · cases taken
  | record id fault error =>
      obtain ⟨request, held, taken⟩ := Option.bind_eq_some_iff.mp taken
      refine Or.inr (Or.inl ⟨id, request, ?_⟩)
      split at taken
      · rename_i event recording
        cases taken
        rw [recording]
        cases fault with
        | none | retried => exact ⟨_, _, held, .recorded, rfl⟩
        | lost => exact ⟨_, _, held, .unrecorded error, rfl⟩
        | unacked => exact ⟨_, _, held, .unanswered error, rfl⟩
      · cases taken
  | consume instanceId sessionId userId =>
      obtain ⟨fresh, launched⟩ := Option.ite_none_right_eq_some.mp taken
      cases launched
      exact Or.inr (Or.inr (Or.inl ⟨instanceId, sessionId, userId, rfl, fresh, rfl⟩))
  | evict reservations instanceId =>
      obtain ⟨⟨listed, member⟩, asked⟩ := Option.ite_none_right_eq_some.mp taken
      cases asked
      exact Or.inr (Or.inr (Or.inr (Or.inl ⟨reservations, instanceId, rfl, listed, member, rfl⟩)))
  | other described =>
      cases taken
      exact Or.inr (Or.inr (Or.inr (Or.inr ⟨described, rfl, rfl⟩)))

/-! ## What the log says -/

/-- An entry is borne out by those before it. EC2 gives no id twice; only launched instances are asked
to terminate; and an event tells what its request has done, for the session that the instance was
launched for. -/
def Justified (earlier : List (Entry ι)) : Entry ι → Prop
  | .launched _ instanceId _ _ =>
      ∀ by_ sessionId userId, .launched by_ instanceId sessionId userId ∉ earlier
  | .asked _ instanceId =>
      ∃ by_ sessionId userId, .launched by_ instanceId sessionId userId ∈ earlier
  | .recorded id (.spawned _ instanceId sessionId userId) =>
      .launched (some id) instanceId sessionId userId ∈ earlier
  | .recorded id (.terminated _ instanceId sessionId userId _ _) =>
      .asked (some id) instanceId ∈ earlier ∧ ∃ by_ session user,
        .launched by_ instanceId session user ∈ earlier ∧ sessionId = some session ∧
          userId = some user

/-- Each entry is borne out by those before it. -/
def Trail (log : List (Entry ι)) : Prop :=
  ∀ earlier entry later, log = earlier ++ entry :: later → Justified earlier entry

/-- Someone else may put the tag of the spawner on an instance only with all tags that have been shown
of that instance before. -/
def KeepsTags (spawner : Spawner) (_past : List (Action ι)) (world : World ι) : Action ι → Prop
  | .other described => described.Stamped spawner →
      ∃ known ∈ world.shown, known.instanceId = described.instanceId ∧ known.tags = described.tags
  | _ => True

/-- Where a phase has its data from. -/
def Phase.Sound (principal : AuthenticatedPrincipal) (log : List (Entry ι)) (id : ι) : Phase → Prop
  | .terminating details => ∃ by_ sessionId userId,
      .launched by_ details.instanceId sessionId userId ∈ log ∧
        details.tags.lookup "SessionId" = some sessionId ∧
        details.tags.lookup "UserId" = some userId
  | .recording event => Justified log (.recorded id event)
  | .ended (.ok (.state instanceId _ sessionId userId)) => ∃ by_ session user,
      .launched by_ instanceId session user ∈ log ∧ sessionId = some session ∧ userId = some user ∧
        (principal.actorType = .user → session = principal.sessionId)
  | _ => True

/-- The instances that show the tag have been launched with the tags they show, those launched have
been shown, the log is borne out, and the requests have their data from it. -/
structure Kept (spawner : Spawner) (world : World ι) : Prop where
  stamped : ∀ described ∈ world.shown, described.Stamped spawner → ∃ by_ instanceId sessionId userId,
    described.instanceId = some instanceId ∧
      described.tags = spawner.launchTags sessionId userId ∧
      .launched by_ instanceId sessionId userId ∈ world.log
  known : ∀ by_ instanceId sessionId userId, .launched by_ instanceId sessionId userId ∈ world.log →
    ∃ described ∈ world.shown, described.instanceId = some instanceId
  trail : Trail world.log
  requests : ∀ id request, world.requests id = some request →
    request.phase.Sound request.principal world.log id

omit [DecidableEq ι] in
theorem trail_concat {log : List (Entry ι)} {entry : Entry ι} (trail : Trail log)
    (justified : Justified log entry) : Trail (log ++ [entry]) := by
  intro earlier other later split
  rcases List.eq_nil_or_concat later with rfl | ⟨before, last, rfl⟩
  · obtain ⟨rfl, same⟩ := List.append_inj' split rfl
    cases same
    exact justified
  · rw [List.concat_eq_append, ← List.cons_append, ← List.append_assoc] at split
    obtain ⟨same, -⟩ := List.append_inj' split rfl
    exact trail earlier other before same

omit [DecidableEq ι] in
/-- What the log says once, it says for good. -/
theorem sound_append {log more : List (Entry ι)} (sound : phase.Sound principal log id) :
    phase.Sound principal (log ++ more) id := by
  have grows : ∀ {entry}, entry ∈ log → entry ∈ log ++ more := List.mem_append_left more
  unfold Phase.Sound at sound ⊢
  split at sound
  · obtain ⟨by_, session, user, launched, rest⟩ := sound
    exact ⟨by_, session, user, grows launched, rest⟩
  · rename_i event
    cases event with
    | spawned => exact grows sound
    | terminated =>
        obtain ⟨asked, by_, session, user, launched, rest⟩ := sound
        exact ⟨grows asked, by_, session, user, grows launched, rest⟩
  · obtain ⟨by_, session, user, launched, rest⟩ := sound
    exact ⟨by_, session, user, grows launched, rest⟩
  · trivial

/-! ### Tags -/

/-- A value in the dictionary of the tags is that of a tag. -/
theorem mem_of_lookup_tagsOf {tags : List Tag} {key value : String}
    (found : (tagsOf tags).lookup key = some value) : ⟨some key, some value⟩ ∈ tags := by
  unfold tagsOf at found
  induction tags using List.reverseRecOn with
  | nil =>
      rw [List.foldl_nil, AList.lookup_empty] at found
      cases found
  | append_singleton rest tag ih =>
      rw [List.foldl_append, List.foldl_cons, List.foldl_nil] at found
      split at found
      · rename_i name text named valued
        rcases Table.lookup_insert_cases found with ⟨rfl, rfl⟩ | ⟨-, earlier⟩
        · apply List.mem_append_right
          rw [← named, ← valued]
          exact List.mem_singleton_self _
        · exact List.mem_append_left _ (ih earlier)
      · exact List.mem_append_left _ (ih found)

/-- The session and the user of an instance that is launched are told by its tags. -/
theorem lookup_launchTags (spawner : Spawner) (sessionId userId : String) :
    (tagsOf (spawner.launchTags sessionId userId)).lookup "SessionId" = some sessionId ∧
      (tagsOf (spawner.launchTags sessionId userId)).lookup "UserId" = some userId := by
  have apart : "SessionId" ≠ "UserId" := by decide
  unfold tagsOf Spawner.launchTags
  simp only [List.foldl_cons, List.foldl_nil]
  exact ⟨by rw [AList.lookup_insert_ne apart, AList.lookup_insert], AList.lookup_insert _⟩

omit [DecidableEq ι] in
/-- An instance that is described with the tag of the spawner has been launched for the session and
the user that its tags tell. -/
theorem launched_of_describe (kept : Kept spawner world) {instanceId : String} {ending : DescribeEnd}
    {details : InstanceDetails} (shows : world.Shows ending)
    (described : describeInstance instanceId ending = .ok (some details))
    (owned : details.tags.lookup "Spawner" = some spawner.spawnerTag) :
    details.instanceId = instanceId ∧ ∃ by_ sessionId userId,
      .launched by_ details.instanceId sessionId userId ∈ world.log ∧
        details.tags.lookup "SessionId" = some sessionId ∧
        details.tags.lookup "UserId" = some userId := by
  cases ending with
  | clientError | raised => cases described
  | answered reservations =>
      obtain ⟨found, first, rfl⟩ := Option.map_eq_some_iff.mp (Except.ok.inj described)
      obtain ⟨by_, launchedId, session, user, named, tagged, launched⟩ := kept.stamped found
        (shows found (List.mem_of_find?_eq_some first)) (mem_of_lookup_tagsOf owned)
      have matched := List.find?_some first
      have same : found.instanceId = some instanceId := of_decide_eq_true matched
      obtain rfl : launchedId = instanceId := Option.some.inj (named.symm.trans same)
      refine ⟨rfl, by_, session, user, launched, ?_⟩
      rw [tagged]
      exact lookup_launchTags spawner session user

/-! ### The invariant -/

omit [DecidableEq ι] in
/-- What is neither a launch nor unborne may be noted. -/
theorem Kept.note (kept : Kept spawner world) {entry : Entry ι}
    (justified : Justified world.log entry)
    (noLaunch : ∀ by_ instanceId sessionId userId,
      entry ≠ .launched by_ instanceId sessionId userId) : Kept spawner (world.note entry) where
  stamped described shown stamped := by
    obtain ⟨by_, instanceId, session, user, named, tagged, launched⟩ :=
      kept.stamped described shown stamped
    exact ⟨by_, instanceId, session, user, named, tagged, List.mem_append_left _ launched⟩
  known by_ instanceId session user launched := by
    rcases List.mem_append.mp launched with earlier | now
    · exact kept.known by_ instanceId session user earlier
    · exact absurd (List.mem_singleton.mp now).symm (noLaunch _ _ _ _)
  trail := trail_concat kept.trail justified
  requests id request held := sound_append (kept.requests id request held)

omit [DecidableEq ι] in
/-- A fresh instance may be launched. -/
theorem Kept.launch (kept : Kept spawner world) {instanceId : String}
    (fresh : world.Fresh instanceId) (by_ : Option ι) (sessionId userId : String) :
    Kept spawner (world.launch spawner by_ instanceId sessionId userId) where
  stamped described shown stamped := by
    rcases List.mem_append.mp shown with earlier | now
    · obtain ⟨other, otherId, session, user, named, tagged, launched⟩ :=
        kept.stamped described earlier stamped
      exact ⟨other, otherId, session, user, named, tagged, List.mem_append_left _ launched⟩
    · obtain rfl := List.mem_singleton.mp now
      exact ⟨by_, instanceId, sessionId, userId, rfl, rfl,
        List.mem_append_right _ (List.mem_singleton_self _)⟩
  known other otherId session user launched := by
    rcases List.mem_append.mp launched with earlier | now
    · obtain ⟨described, shown, named⟩ := kept.known other otherId session user earlier
      exact ⟨described, List.mem_append_left _ shown, named⟩
    · cases List.mem_singleton.mp now
      exact ⟨_, List.mem_append_right _ (List.mem_singleton_self _), rfl⟩
  trail := by
    apply trail_concat kept.trail
    intro other session user launched
    obtain ⟨described, shown, named⟩ := kept.known other instanceId session user launched
    exact fresh described shown named
  requests id request held := sound_append (kept.requests id request held)

/-- A request may go on to a phase that has its data from the log. -/
theorem Kept.advance (kept : Kept spawner world) {request : Request}
    (sound : phase.Sound request.principal world.log id) :
    Kept spawner (world.advance id request phase) where
  stamped := kept.stamped
  known := kept.known
  trail := kept.trail
  requests other later held := by
    by_cases same : other = id
    · subst same
      simp only [World.advance, Function.update_self] at held
      cases held
      exact sound
    · simp only [World.advance, Function.update_of_ne same] at held
      exact kept.requests other later held

omit [DecidableEq ι] in
/-- An instance may be shown that someone else has not put the tag of the spawner on. -/
theorem Kept.show_ (kept : Kept spawner world) {described : Described}
    (keepsTags : described.Stamped spawner →
      ∃ known ∈ world.shown, known.instanceId = described.instanceId ∧
        known.tags = described.tags) : Kept spawner (world.show_ described) where
  stamped other shown stamped := by
    rcases List.mem_append.mp shown with earlier | now
    · exact kept.stamped other earlier stamped
    · obtain rfl := List.mem_singleton.mp now
      obtain ⟨known, before, sameId, sameTags⟩ := keepsTags stamped
      have knownStamped : known.Stamped spawner := by
        rw [Described.Stamped, sameTags]
        exact stamped
      rw [← sameId, ← sameTags]
      exact kept.stamped known before knownStamped
  known by_ instanceId session user launched := by
    obtain ⟨known, before, named⟩ := kept.known by_ instanceId session user launched
    exact ⟨known, List.mem_append_left _ before, named⟩
  trail := kept.trail
  requests := kept.requests

omit [DecidableEq ι] in
/-- A route begins with nothing that it has from the log. -/
theorem sound_start (route : Route) (log : List (Entry ι)) :
    (route.start principal).Sound principal log id := by
  cases route with
  | state => trivial
  | spawn | terminate =>
      rw [Route.start, requireServiceActor]
      split
      · trivial
      · trivial

/-- A move of a request keeps the invariant. -/
theorem kept_move {later : World ι} {request : Request} (kept : Kept spawner world)
    (held : world.requests id = some request)
    (moved : Moves spawner world id request.principal request.phase phase later) :
    Kept spawner (later.advance id request phase) := by
  have sound := kept.requests id request held
  obtain ⟨principal, route, before⟩ := request
  dsimp only at moved sound
  cases moved with
  | unlaunched tells =>
      apply kept.advance
      unfold spawnInstance
      split
      · trivial
      · rename_i ending instanceId answered
        unfold runInstance at answered
        split at answered
        all_goals cases answered
        cases tells
  | launched tells fresh =>
      apply (kept.launch fresh (some id) _ _).advance
      unfold spawnInstance
      split
      · trivial
      · rename_i ending instanceId answered
        unfold runInstance at answered
        split at answered
        all_goals cases answered
        cases tells
        exact List.mem_append_right _ (List.mem_singleton_self _)
  | described shows =>
      apply kept.advance
      unfold getInstanceState
      split
      · trivial
      · trivial
      · rename_i details found
        split
        · trivial
        · rename_i owned
          split
          · trivial
          · rename_i visible
            obtain ⟨-, by_, session, user, launched, sessionTag, userTag⟩ :=
              launched_of_describe kept shows found (not_not.mp owned)
            refine ⟨by_, session, user, launched, sessionTag, userTag, fun isUser => ?_⟩
            by_contra foreign
            apply visible
            refine ⟨isUser, fun same => foreign ?_⟩
            exact Option.some.inj (sessionTag.symm.trans same)
  | checked shows =>
      apply kept.advance
      unfold checkOwned
      split
      · trivial
      · trivial
      · rename_i details found
        split
        · trivial
        · rename_i owned
          exact (launched_of_describe kept shows found (not_not.mp owned)).2
  | terminated ending =>
      obtain ⟨by_, session, user, launched, sessionTag, userTag⟩ := sound
      have justified : Justified world.log (.asked (some id) _) := ⟨by_, session, user, launched⟩
      apply (kept.note justified (by rintro _ _ _ _ ⟨⟩)).advance
      unfold afterTermination
      split
      · trivial
      · exact ⟨List.mem_append_right _ (List.mem_singleton_self _), by_, session, user,
          List.mem_append_left _ launched, sessionTag, userTag⟩
  | recorded =>
      rename_i event
      apply (kept.note sound (by rintro _ _ _ _ ⟨⟩)).advance
      cases event with
      | spawned | terminated => trivial
  | unrecorded error => exact kept.advance trivial
  | unanswered error => exact (kept.note sound (by rintro _ _ _ _ ⟨⟩)).advance trivial

theorem kept_step (kept : Kept spawner world) {past : List (Action ι)}
    (keepsTags : KeepsTags spawner past world action)
    (taken : step spawner world action = some after) : Kept spawner after := by
  rcases step_cases taken with ⟨id, principal, route, -, -, rfl⟩ |
    ⟨id, request, phase, later, held, moved, rfl⟩ | ⟨instanceId, sessionId, userId, -, fresh, rfl⟩ |
    ⟨reservations, instanceId, -, listed, member, rfl⟩ | ⟨described, rfl, rfl⟩
  · exact kept.advance (sound_start route _)
  · exact kept_move kept held moved
  · exact kept.launch fresh none sessionId userId
  · obtain ⟨⟨_, session⟩, inList, rfl⟩ := List.mem_map.mp member
    obtain ⟨described, inAnswer, made⟩ := List.mem_filterMap.mp inList
    obtain ⟨_, named, same⟩ := Option.map_eq_some_iff.mp made
    obtain ⟨rfl, -⟩ := Prod.mk.inj same
    obtain ⟨shown, stamped, -⟩ := listed described inAnswer
    obtain ⟨by_, launchedId, session, user, launchedAs, -, launched⟩ :=
      kept.stamped described shown stamped
    obtain rfl := Option.some.inj (launchedAs.symm.trans named)
    have justified : Justified world.log (.asked none launchedId) := ⟨by_, session, user, launched⟩
    exact kept.note justified (by rintro _ _ _ _ ⟨⟩)
  · exact kept.show_ keepsTags

/-- Nothing has been done, and no instance has the tag of the spawner. -/
structure World.Unused (spawner : Spawner) (world : World ι) : Prop where
  unstamped : ∀ described ∈ world.shown, ¬ described.Stamped spawner
  noRequests : ∀ id, world.requests id = none
  noLog : world.log = []

variable {start : World ι} {actions : List (Action ι)}

theorem kept_of_execute (unused : start.Unused spawner)
    (keepTags : Meets (step spawner) (KeepsTags spawner) [] start actions)
    (run : execute (step spawner) start actions = some world) : Kept spawner world := by
  have initial : Kept spawner start :=
    { stamped := fun described shown stamped => absurd stamped (unused.unstamped described shown)
      known := by
        intro by_ instanceId session user launched
        rw [unused.noLog] at launched
        cases launched
      trail := by
        intro earlier entry later split
        rw [unused.noLog] at split
        cases earlier with
        | nil | cons => cases split
      requests := by
        intro id request held
        rw [unused.noRequests id] at held
        cases held }
  have keeps : ∀ (past : List (Action ι)) before action after, Kept spawner before →
      KeepsTags spawner past before action → step spawner before action = some after →
      Kept spawner after :=
    fun _ _ _ _ kept keepsTags taken => kept_step kept keepsTags taken
  exact execute_invariant initial keeps keepTags run

instance (spawner : Spawner) (past : List (Action ι)) (world : World ι) :
    DecidablePred (KeepsTags spawner past world)
  | .other described => inferInstanceAs (Decidable (described.Stamped spawner → _))
  | .submit .. | .run .. | .describe .. | .terminate .. | .record .. | .consume .. | .evict .. =>
      .isTrue trivial

/-- A deployment. -/
def dev : Spawner := ⟨"panakoes", "gpu-spawner-dev"⟩

/-- An instance of somebody else. -/
def foreign : World ℕ where
  shown := [⟨some "i-0", some "running", [⟨some "SessionId", some "s1"⟩]⟩]
  requests := fun _ => none
  log := []

/-- The session manager. -/
def manager : AuthenticatedPrincipal := ⟨"session-manager", .service, "s1"⟩

/-- The instance of `s1` has been evicted when it is terminated. -/
def race : List (Action ℕ) :=
  [.submit 0 manager (.spawn "s1" "u1"), .run 0 (some "i-1") (.answered [some "i-1"]),
    .submit 1 manager (.terminate "i-1"), .submit 2 ⟨"u1", .user, "s1"⟩ (.state "i-1"),
    .record 0 .none "", .other ⟨some "i-1", some "running", dev.launchTags "s1" "u1"⟩,
    .describe 1 (.answered [[⟨some "i-1", some "running", dev.launchTags "s1" "u1"⟩]]),
    .evict [[⟨some "i-1", some "pending", dev.launchTags "s1" "u1"⟩]] "i-1",
    .describe 2 (.answered [[⟨some "i-1", some "pending", dev.launchTags "s1" "u1"⟩]]),
    .terminate 1 (.answered [(some "shutting-down", some "shutting-down")]), .record 1 .none ""]

/-- The world after the race. -/
def raced : World ℕ := (execute (step dev) foreign race).getD foreign

theorem run_race : execute (step dev) foreign race = some raced := rfl

theorem unused_foreign : foreign.Unused dev where
  unstamped := by decide
  noRequests _ := rfl
  noLog := rfl

/-- Who has done it, unless it is the consumer. -/
def Entry.doer : Entry ι → Option ι
  | .launched by_ _ _ _ | .asked by_ _ => by_
  | .recorded id _ => some id

/-- What a request has done. -/
def World.doneBy (world : World ι) (id : ι) : List (Entry ι) :=
  world.log.filter fun entry => entry.doer = some id

/-- What a route does before its event is recorded. -/
inductive Performs (id : ι) (principal : AuthenticatedPrincipal) :
    Route → Event → List (Entry ι) → Prop
  | spawn (instanceId sessionId userId : String) :
      Performs id principal (.spawn sessionId userId)
        (.spawned principal.actorId instanceId sessionId userId)
        [.launched (some id) instanceId sessionId userId]
  | terminate (instanceId : String) (sessionId userId : Option String)
      (previousState currentState : InstanceState) :
      Performs id principal (.terminate instanceId)
        (.terminated principal.actorId instanceId sessionId userId previousState currentState)
        [.asked (some id) instanceId]

/-- What a request has done at most: the call of its route, then its event. -/
def Started (id : ι) (request : Request) (done : List (Entry ι)) : Prop :=
  request.principal.actorType = .service ∧ ∃ event calls,
    Performs id request.principal request.route event calls ∧ done <+: calls ++ [.recorded id event]

/-- What a request has done, by its phase and its answer. -/
def Tells (id : ι) (request : Request) (done : List (Entry ι)) : Prop :=
  match request.phase with
  | .launching sessionId userId =>
      request.principal.actorType = .service ∧ request.route = .spawn sessionId userId ∧ done = []
  | .describing instanceId => request.route = .state instanceId ∧ done = []
  | .checking instanceId =>
      request.principal.actorType = .service ∧ request.route = .terminate instanceId ∧ done = []
  | .terminating details =>
      request.principal.actorType = .service ∧ request.route = .terminate details.instanceId ∧
        done = []
  | .recording event =>
      request.principal.actorType = .service ∧
        Performs id request.principal request.route event done
  | .ended (.ok (.state instanceId _ _ _)) => request.route = .state instanceId ∧ done = []
  | .ended (.ok response) =>
      request.principal.actorType = .service ∧ ∃ event calls, response = event.response ∧
        Performs id request.principal request.route event calls ∧
          done = calls ++ [.recorded id event]
  | .ended (.error (.forbidden _)) | .ended (.error (.notFound _)) => done = []
  | .ended (.error (.runInstances _)) | .ended (.error (.error _)) =>
      done = [] ∨ Started id request done

variable {entry : Entry ι} {later : World ι} {request : Request}

theorem doneBy_note : (world.note entry).doneBy id =
    if entry.doer = some id then world.doneBy id ++ [entry] else world.doneBy id := by
  rw [World.doneBy, World.note, List.filter_append, List.filter_singleton]
  by_cases own : entry.doer = some id
  · simp [own, World.doneBy]
  · simp [own, World.doneBy]

theorem doneBy_note_own (own : entry.doer = some id) :
    (world.note entry).doneBy id = world.doneBy id ++ [entry] := by
  rw [doneBy_note, if_pos own]

/-- A move of a request is no doing of another one. -/
theorem doneBy_move {other : ι} {before : Phase} (apart : other ≠ id)
    (moved : Moves spawner world id principal before phase later) :
    later.doneBy other = world.doneBy other := by
  have foreign : some id ≠ some other := fun same => apart (Option.some.inj same).symm
  cases moved with
  | unlaunched | described | checked | unrecorded => rfl
  | launched | terminated | recorded | unanswered => exact doneBy_note.trans (if_neg foreign)

omit [DecidableEq ι] in
/-- A move is no arrival. -/
theorem requests_move {before : Phase}
    (moved : Moves spawner world id principal before phase later) :
    later.requests = world.requests := by
  cases moved with
  | unlaunched | described | checked | unrecorded => rfl
  | launched | terminated | recorded | unanswered => rfl

omit [DecidableEq ι] in
theorem tells_start (principal : AuthenticatedPrincipal) (route : Route) :
    Tells id ⟨principal, route, route.start principal⟩ [] := by
  cases route with
  | state instanceId => exact ⟨rfl, rfl⟩
  | spawn | terminate =>
      rw [Route.start, requireServiceActor]
      split
      · exact rfl
      · rename_i service
        exact ⟨not_not.mp service, rfl, rfl⟩

omit [DecidableEq ι] in
/-- The call that launches answers with the instance that it has launched, or with an error. -/
theorem tells_launched {sessionId userId instanceId : String} {ending : RunEnd}
    (tells : ending.Tells (some instanceId)) (service : request.principal.actorType = .service)
    (routed : request.route = .spawn sessionId userId) :
    Tells id { request with phase := spawnInstance request.principal sessionId userId ending }
      [.launched (some id) instanceId sessionId userId] := by
  obtain ⟨principal, route, before⟩ := request
  cases routed
  have started : Started id ⟨principal, .spawn sessionId userId, before⟩
      [.launched (some id) instanceId sessionId userId] :=
    ⟨service, _, _, .spawn instanceId sessionId userId, List.prefix_append _ _⟩
  unfold spawnInstance runInstance
  cases ending with
  | clientError | raised => exact Or.inr started
  | answered instances =>
      cases instances with
      | nil => exact Or.inr started
      | cons head rest =>
          cases head with
          | none => exact Or.inr started
          | some answered =>
              cases tells
              exact ⟨service, .spawn instanceId sessionId userId⟩

theorem raised_of_describe {instanceId : String} {ending : DescribeEnd} {raised : Raised}
    (described : describeInstance instanceId ending = .error raised) :
    ∃ message, raised = .error message := by
  cases ending with
  | answered | clientError => cases described
  | raised error => exact ⟨error, (Except.error.inj described).symm⟩

theorem instanceId_of_describe {instanceId : String} {ending : DescribeEnd}
    {details : InstanceDetails}
    (described : describeInstance instanceId ending = .ok (some details)) :
    details.instanceId = instanceId := by
  cases ending with
  | clientError | raised => cases described
  | answered reservations =>
      obtain ⟨_, -, rfl⟩ := Option.map_eq_some_iff.mp (Except.ok.inj described)
      rfl

theorem raised_of_terminate {ending : TerminateEnd} {raised : Raised}
    (terminated : terminateInstance ending = .error raised) :
    ∃ message, raised = .error message := by
  unfold terminateInstance at terminated
  split at terminated
  · exact ⟨_, (Except.error.inj terminated).symm⟩
  · cases terminated
  · exact ⟨_, (Except.error.inj terminated).symm⟩

/-- What a request has done is told after its next move. -/
theorem tells_move (tells : Tells id request (world.doneBy id))
    (moved : Moves spawner world id request.principal request.phase phase later) :
    Tells id { request with phase } (later.doneBy id) := by
  obtain ⟨principal, route, before⟩ := request
  dsimp only at moved
  cases moved with
  | unlaunched unlaunched =>
      obtain ⟨service, routed, nothing⟩ := tells
      rw [nothing]
      rename_i ending
      unfold spawnInstance runInstance
      cases ending with
      | clientError | raised => exact Or.inl rfl
      | answered instances =>
          cases instances with
          | nil => exact Or.inl rfl
          | cons head rest =>
              cases head with
              | none => exact Or.inl rfl
              | some answered => cases unlaunched
  | launched launched fresh =>
      obtain ⟨service, routed, nothing⟩ := tells
      rename_i instanceId sessionId userId ending
      have done : (world.launch spawner (some id) instanceId sessionId userId).doneBy id =
          world.doneBy id ++ [.launched (some id) instanceId sessionId userId] :=
        doneBy_note_own rfl
      rw [done, nothing]
      exact tells_launched launched service routed
  | described shows =>
      obtain ⟨routed, nothing⟩ := tells
      rw [nothing]
      rename_i instanceId ending
      unfold getInstanceState
      cases described : describeInstance instanceId ending with
      | error raised =>
          obtain ⟨message, rfl⟩ := raised_of_describe described
          exact Or.inl rfl
      | ok found =>
          cases found with
          | none => exact rfl
          | some details =>
              dsimp only
              split
              · exact rfl
              · split
                · exact rfl
                · rw [instanceId_of_describe described]
                  exact ⟨routed, rfl⟩
  | checked shows =>
      obtain ⟨service, routed, nothing⟩ := tells
      rw [nothing]
      rename_i instanceId ending
      unfold checkOwned
      cases described : describeInstance instanceId ending with
      | error raised =>
          obtain ⟨message, rfl⟩ := raised_of_describe described
          exact Or.inl rfl
      | ok found =>
          cases found with
          | none => exact rfl
          | some details =>
              dsimp only
              split
              · exact rfl
              · refine ⟨service, ?_, rfl⟩
                rw [instanceId_of_describe described]
                exact routed
  | terminated ending =>
      obtain ⟨service, routed, nothing⟩ := tells
      rename_i details
      obtain rfl : route = .terminate details.instanceId := routed
      rw [doneBy_note_own rfl, nothing, List.nil_append]
      unfold afterTermination
      cases terminated : terminateInstance ending with
      | error raised =>
          obtain ⟨message, rfl⟩ := raised_of_terminate terminated
          exact Or.inr ⟨service, _, _, .terminate details.instanceId none none .unknown .unknown,
            List.prefix_append _ _⟩
      | ok states => exact ⟨service, .terminate details.instanceId _ _ _ _⟩
  | recorded =>
      obtain ⟨service, performs⟩ := tells
      rename_i event
      rw [doneBy_note_own rfl]
      cases event with
      | spawned | terminated => exact ⟨service, _, _, rfl, performs, rfl⟩
  | unrecorded error =>
      obtain ⟨service, performs⟩ := tells
      exact Or.inr ⟨service, _, _, performs, List.prefix_append _ _⟩
  | unanswered error =>
      obtain ⟨service, performs⟩ := tells
      rw [doneBy_note_own rfl]
      exact Or.inr ⟨service, _, _, performs, List.prefix_rfl⟩

/-- The requests of a world tell of what they have done. -/
def World.Told (world : World ι) : Prop :=
  ∀ id, match world.requests id with
    | none => world.doneBy id = []
    | some request => Tells id request (world.doneBy id)

/-- A request goes on, and the others have done what they had. -/
theorem told_advance (told : world.Told) (tells : Tells id { request with phase } (later.doneBy id))
    (others : ∀ other, other ≠ id → later.doneBy other = world.doneBy other)
    (requests : later.requests = world.requests) : (later.advance id request phase).Told := by
  intro other
  by_cases same : other = id
  · subst same
    simp only [World.advance, Function.update_self]
    exact tells
  · have before := told other
    rw [← others other same, ← requests] at before
    simp only [World.advance, Function.update_of_ne same]
    exact before

theorem told_note (told : world.Told) (byConsumer : entry.doer = none) :
    (world.note entry).Told := by
  intro id
  have same : (world.note entry).doneBy id = world.doneBy id := by
    rw [doneBy_note, byConsumer]
    exact if_neg (by rintro ⟨⟩)
  rw [same]
  exact told id

theorem told_step (told : world.Told) (taken : step spawner world action = some after) :
    after.Told := by
  rcases step_cases taken with ⟨id, principal, route, -, fresh, rfl⟩ |
    ⟨id, request, phase, later, held, moved, rfl⟩ | ⟨instanceId, sessionId, userId, -, -, rfl⟩ |
    ⟨reservations, instanceId, -, -, -, rfl⟩ | ⟨described, -, rfl⟩
  · have nothing := told id
    rw [fresh] at nothing
    apply told_advance told _ (fun _ _ => rfl) rfl
    rw [nothing]
    exact tells_start principal route
  · have tells := told id
    rw [held] at tells
    apply told_advance told (tells_move tells moved)
    · exact fun _ apart => doneBy_move apart moved
    · exact requests_move moved
  · exact @told_note _ _ (world.show_ _) _ told rfl
  · exact told_note told rfl
  · exact told

/-- **The answers tell what was done.** In every interleaving, a request that has returned `201` has
launched one instance, for the session and user of its body, and has then recorded that; one that has
returned the states of a termination has asked for it once and has then recorded it. One that was
refused, found nothing or asked for a state has done nothing, and so has every request of a user. -/
theorem requests_tell {start : World ι} (noLog : start.log = [])
    (noRequests : ∀ id, start.requests id = none) {actions : List (Action ι)}
    (run : execute (step spawner) start actions = some world)
    (held : world.requests id = some request) : Tells id request (world.doneBy id) := by
  have fresh : start.Told := by
    intro id
    rw [noRequests id, World.doneBy, noLog]
    rfl
  have told : world.Told :=
    execute_invariant_of_step fresh (fun _ _ _ told taken => told_step told taken) run
  have tells := told id
  rw [held] at tells
  exact tells

theorem requests_tell_race : ∃ request, raced.requests 1 = some request ∧
    Tells 1 request (raced.doneBy 1) := by
  obtain ⟨request, held⟩ : ∃ request, raced.requests 1 = some request :=
    Option.isSome_iff_exists.mp (by decide +kernel)
  exact ⟨request, held, requests_tell rfl (fun _ => rfl) run_race held⟩

end Panakoes.GpuSpawner.InstanceRoutes
