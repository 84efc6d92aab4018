import Panakoes.Foundation.Run
import Panakoes.GpuSpawner.SpawnCallback
import Panakoes.StreamingRouter.FrameRouting
import Panakoes.TranscriberStream.FrameSource

/-! # The streaming system

The services of a streaming session together: routers that accept connections
and route frames, the spawn queue with the gpu-spawner's callbacks, the pool and
sessions tables, the frame queues, and the transcriber containers with their
consumers. Each action is one request of one of them, with its answer; any
number of routers, callbacks and containers interleave. Queues deliver at least
once: a message may be delivered again until it is gone.
-/

namespace Panakoes.Streaming

open ConditionalWrite Ownership GpuSpawner StreamingRouter TranscriberStream

/-- The pool as it is deployed: free rows whose queue URLs are distinct, and the
router's shared fallback queue, which is not among them. -/
structure FramePool where
  seed : PoolTable
  legacyUrl : String
  unclaimed : ∀ poolId, seed.owner poolId = none
  distinct : ∀ one other url, seed.queueUrl? one = some url → seed.queueUrl? other = some url →
    one = other
  apart : ∀ poolId, seed.queueUrl? poolId ≠ some legacyUrl

/-- What the services are configured with. -/
structure Deployment where
  pool : FramePool
  decoders : Decoders
  dumps : PyJson → String
  maxConcurrentSessions : ℤ

/-- The JSON codec the router uses. -/
def Deployment.codec (deployment : Deployment) : Codec :=
  ⟨deployment.decoders.loads, deployment.dumps⟩

/-- A message in a frame queue. `sender` is its `session_id` attribute. -/
structure QueuedFrame where
  messageId : String
  sender : String
  body : String
  deriving DecidableEq

/-- The message as `receive_message` returns it, under a receipt of its own. -/
def QueuedFrame.message (frame : QueuedFrame) (receipt : String) : Message :=
  ⟨some frame.messageId, some receipt, some frame.body⟩

/-- A warm router: its cache, the last reading of its clock, and the send that
its current event has come to. -/
structure WarmRouter where
  cache : QueueUrlCache
  clock : ℚ
  sending : Option SendRequest

/-- A callback in progress or ended. -/
structure Spawn where
  intent : SpawnIntent
  pc : SpawnPc
  deriving DecidableEq

/-- A transcriber container on its instance, with the frames it has received. -/
structure Container where
  sessionId : String
  queueUrl : String
  consumer : SQSConsumer
  state : SQSConsumer.State
  received : List (QueuedFrame × String)
  running : Bool

/-- The messages a container has received. -/
def Container.messages (container : Container) : List Message :=
  container.received.map fun (frame, receipt) => frame.message receipt

/-- The state of the system. `ended` lists the sessions that have disconnected,
finished or lost their instance. -/
structure State where
  pool : PoolTable
  sessions : SessionTable
  intents : List SpawnIntent
  spawns : Table ℕ Spawn
  routers : Table ℕ WarmRouter
  queues : Table String (List QueuedFrame)
  containers : Table ℕ Container
  ended : List String

/-- What the environment does to a container's consumer. -/
inductive ConsumerInput where
  | stop
  | wake
  | failed (now : ℚ)
  | receive (batch : List (QueuedFrame × String)) (now : ℚ)
  | next (now : ℚ)

/-- The frames the input delivers. -/
def ConsumerInput.batch : ConsumerInput → List (QueuedFrame × String)
  | .receive batch _ => batch
  | _ => []

/-- The consumer's own action. -/
def ConsumerInput.action : ConsumerInput → SQSConsumer.Action
  | .stop => .stop
  | .wake => .wake
  | .failed now => .receive .failed now
  | .receive batch now =>
      .receive (.messages (batch.map fun (frame, receipt) => frame.message receipt)) now
  | .next now => .next now

/-- One request of one of the services. `spawn` names the container that a
launch would start and its start time; `settle` deletes the spawn message of a
callback that has ended well; `exit` ends a container's session, by its drain or
by an interruption; `forget` lets messages of a queue go. -/
inductive Action where
  | connect (sessionId : String) (request : ConnectRequest) (fault : Fault) (announced : Bool)
  | disconnect (router : ℕ) (sessionId now : String) (fault : Fault)
  | route (router : ℕ) (event : FrameEvent) (now : ℚ) (readable : Bool)
  | sendFrame (router : ℕ) (messageId : Option String)
  | deliver (call : ℕ) (intent : SpawnIntent)
  | spawn (call : ℕ) (input : SpawnInput) (container : ℕ) (startedAt : ℚ)
  | settle (call : ℕ)
  | transcribe (container : ℕ) (input : ConsumerInput)
  | exit (container : ℕ)
  | forget (queueUrl : String) (kept : List QueuedFrame)

/-- The deployed system before its first session. -/
def State.initial (deployment : Deployment) : State where
  pool := deployment.pool.seed
  sessions := ∅
  intents := []
  spawns := ∅
  routers := ∅
  queues := ∅
  containers := ∅
  ended := []

namespace State

/-- A router; one that has handled nothing yet is cold. -/
def routerAt (state : State) (router : ℕ) : WarmRouter :=
  (state.routers.lookup router).getD ⟨[], 0, none⟩

/-- The messages in a queue. -/
def queueAt (state : State) (queueUrl : String) : List QueuedFrame :=
  (state.queues.lookup queueUrl).getD []

/-- The session's row names the queue. -/
def RowNames (state : State) (sessionId queueUrl : String) : Prop :=
  ∃ row ∈ state.sessions.lookup sessionId, row.frameQueueUrl = some queueUrl

instance (state : State) (sessionId queueUrl : String) :
    Decidable (state.RowNames sessionId queueUrl) :=
  inferInstanceAs (Decidable (∃ row ∈ state.sessions.lookup sessionId, _))

/-- End the session of a container, which stops running. -/
def halt (state : State) (container : ℕ) : State :=
  match state.containers.lookup container with
  | none => state
  | some held =>
      { state with
        containers := state.containers.insert container { held with running := false }
        ended := held.sessionId :: state.ended }

end State

/-- The spawn intent that `$connect` announces. -/
def connectIntent (sessionId : String) (request : ConnectRequest) : SpawnIntent :=
  ⟨sessionId, request.userId, request.tenantId⟩

/-- `$connect`: put the row, then announce the session. A failed put ends the
handler; a failed announcement is only logged. -/
def connectStep (state : State) (sessionId : String) (request : ConnectRequest) (fault : Fault)
    (announced : Bool) : State :=
  let item := connectItem sessionId request
  let outcome := send fault state.sessions (some (state.sessions.insert sessionId item))
  { state with
    sessions := outcome.table
    intents :=
      if outcome.reply = .ok ∧ announced then state.intents ++ [connectIntent sessionId request]
      else state.intents }

/-- `$disconnect`: mark the row, whatever comes of it, and drop the cache entry. -/
def disconnectStep (state : State) (router : ℕ) (sessionId now : String) (fault : Fault) : State :=
  let updated := (disconnectUpdate now (state.sessions.lookup sessionId)).map fun row =>
    state.sessions.insert sessionId row
  let warm := state.routerAt router
  { state with
    sessions := (send fault state.sessions updated).table
    routers := state.routers.insert router
      { warm with cache := QueueUrlCache.pop warm.cache sessionId }
    ended := sessionId :: state.ended }

/-- The first part of an `audio-frame` event. -/
def routeStep (deployment : Deployment) (state : State) (router : ℕ) (event : FrameEvent) (now : ℚ)
    (readable : Bool) : State :=
  let warm := state.routerAt router
  let read := if readable then .item (state.sessions.lookup event.connectionId) else .failed
  let (sending, cache) :=
    routeAudioFrame deployment.codec deployment.pool.legacyUrl warm.cache event now read
  { state with routers := state.routers.insert router ⟨cache, now, sending⟩ }

/-- The effect of a callback's request on the whole system. -/
def applySpawn (deployment : Deployment) (state : State) (call : ℕ) (intent : SpawnIntent)
    (outcome : SpawnOutcome) (container : ℕ) (startedAt : ℚ) : Option State :=
  let moved := { state with
    pool := outcome.pool
    sessions := outcome.sessions
    spawns := state.spawns.insert call ⟨intent, outcome.pc⟩ }
  match outcome.evicted, outcome.launched with
  | some victim, _ => some (moved.halt victim)
  | none, none => some moved
  | none, some queueUrl =>
      if container ∈ state.containers then none
      else some { moved with
        containers := state.containers.insert container
          ⟨intent.sessionId, queueUrl, ⟨deployment.decoders, startedAt⟩, SQSConsumer.initial, [],
            true⟩ }

/-- One step of the system. -/
def step (deployment : Deployment) (state : State) : Action → Option State
  | .connect sessionId request fault announced =>
      some (connectStep state sessionId request fault announced)
  | .disconnect router sessionId now fault =>
      if (state.routerAt router).sending = none then
        some (disconnectStep state router sessionId now fault)
      else none
  | .route router event now readable =>
      let warm := state.routerAt router
      if warm.sending = none ∧ warm.clock ≤ now then
        some (routeStep deployment state router event now readable)
      else none
  | .sendFrame router messageId =>
      let warm := state.routerAt router
      match warm.sending with
      | none => none
      | some request =>
          let routers := state.routers.insert router { warm with sending := none }
          match messageId with
          | none => some { state with routers }
          | some messageId =>
              let frame : QueuedFrame := ⟨messageId, request.sessionId, request.messageBody⟩
              some { state with
                routers
                queues := state.queues.insert request.queueUrl
                  (state.queueAt request.queueUrl ++ [frame]) }
  | .deliver call intent =>
      if intent ∈ state.intents ∧ call ∉ state.spawns then
        some { state with
          spawns := state.spawns.insert call
            ⟨intent, spawnStart deployment.maxConcurrentSessions⟩ }
      else none
  | .spawn call input container startedAt =>
      match state.spawns.lookup call with
      | none => none
      | some ⟨intent, pc⟩ =>
          (spawnStep deployment.maxConcurrentSessions call intent state.pool state.sessions pc
            input).bind fun outcome =>
              applySpawn deployment state call intent outcome container startedAt
  | .settle call =>
      match state.spawns.lookup call with
      | some ⟨intent, .done⟩ => some { state with intents := state.intents.erase intent }
      | _ => none
  | .transcribe container input =>
      match state.containers.lookup container with
      | none => none
      | some held =>
          if held.running = true ∧ ∀ entry ∈ input.batch, entry.1 ∈ state.queueAt held.queueUrl then
            (held.consumer.step held.state input.action).map fun next =>
              { state with
                containers := state.containers.insert container
                  { held with state := next, received := held.received ++ input.batch } }
          else none
  | .exit container => some (state.halt container)
  | .forget queueUrl kept =>
      if kept.Sublist (state.queueAt queueUrl) then
        some { state with queues := state.queues.insert queueUrl kept }
      else none

/-! ## What a step does -/

/-- What becomes of the instances once a callback has moved the tables. -/
inductive SpawnApplied (deployment : Deployment) (moved : State) (intent : SpawnIntent)
    (outcome : SpawnOutcome) (container : ℕ) (startedAt : ℚ) : State → Prop where
  | evicts (victim : ℕ) (evicted : outcome.evicted = some victim) :
      SpawnApplied deployment moved intent outcome container startedAt (moved.halt victim)
  | quiet : SpawnApplied deployment moved intent outcome container startedAt moved
  | launches (queueUrl : String) (launched : outcome.launched = some queueUrl) :
      SpawnApplied deployment moved intent outcome container startedAt
        { moved with
          containers := moved.containers.insert container
            ⟨intent.sessionId, queueUrl, ⟨deployment.decoders, startedAt⟩, SQSConsumer.initial, [],
              true⟩ }

/-- The effect of a step, with the guards it has passed. -/
inductive StepEffect (deployment : Deployment) (before : State) : Action → State → Prop where
  | connect (sessionId : String) (request : ConnectRequest) (fault : Fault) (announced : Bool) :
      StepEffect deployment before (.connect sessionId request fault announced)
        (connectStep before sessionId request fault announced)
  | disconnect (router : ℕ) (sessionId now : String) (fault : Fault) :
      StepEffect deployment before (.disconnect router sessionId now fault)
        (disconnectStep before router sessionId now fault)
  | route (router : ℕ) (event : FrameEvent) (now : ℚ) (readable : Bool)
      (later : (before.routerAt router).clock ≤ now) :
      StepEffect deployment before (.route router event now readable)
        (routeStep deployment before router event now readable)
  /-- The send fails, and the frame is gone. -/
  | dropsFrame (router : ℕ) (request : SendRequest)
      (sending : (before.routerAt router).sending = some request) :
      StepEffect deployment before (.sendFrame router none)
        { before with
          routers := before.routers.insert router
            { before.routerAt router with sending := none } }
  | sendsFrame (router : ℕ) (messageId : String) (request : SendRequest)
      (sending : (before.routerAt router).sending = some request) :
      StepEffect deployment before (.sendFrame router (some messageId))
        { before with
          routers := before.routers.insert router { before.routerAt router with sending := none }
          queues := before.queues.insert request.queueUrl (before.queueAt request.queueUrl ++
            [⟨messageId, request.sessionId, request.messageBody⟩]) }
  | deliver (call : ℕ) (intent : SpawnIntent) (announced : intent ∈ before.intents) :
      StepEffect deployment before (.deliver call intent)
        { before with
          spawns := before.spawns.insert call
            ⟨intent, spawnStart deployment.maxConcurrentSessions⟩ }
  /-- A callback's request on the tables, and the instance it evicts or launches. -/
  | spawn (call : ℕ) (input : SpawnInput) (container : ℕ) (startedAt : ℚ) {intent : SpawnIntent}
      {pc : SpawnPc} {outcome : SpawnOutcome} {after : State}
      (running : before.spawns.lookup call = some ⟨intent, pc⟩)
      (moved : spawnStep deployment.maxConcurrentSessions call intent before.pool before.sessions pc
        input = some outcome)
      (applied : SpawnApplied deployment
        { before with
          pool := outcome.pool
          sessions := outcome.sessions
          spawns := before.spawns.insert call ⟨intent, outcome.pc⟩ }
        intent outcome container startedAt after) :
      StepEffect deployment before (.spawn call input container startedAt) after
  | settle (call : ℕ) (intent : SpawnIntent)
      (ended : before.spawns.lookup call = some ⟨intent, .done⟩) :
      StepEffect deployment before (.settle call)
        { before with intents := before.intents.erase intent }
  | transcribe (container : ℕ) (input : ConsumerInput) (held : Container)
      (next : SQSConsumer.State) (found : before.containers.lookup container = some held)
      (running : held.running = true)
      (queued : ∀ entry ∈ input.batch, entry.1 ∈ before.queueAt held.queueUrl)
      (moved : held.consumer.step held.state input.action = some next) :
      StepEffect deployment before (.transcribe container input)
        { before with
          containers := before.containers.insert container
            { held with state := next, received := held.received ++ input.batch } }
  | exit (container : ℕ) : StepEffect deployment before (.exit container) (before.halt container)
  | forget (queueUrl : String) (kept : List QueuedFrame)
      (sublist : kept.Sublist (before.queueAt queueUrl)) :
      StepEffect deployment before (.forget queueUrl kept)
        { before with queues := before.queues.insert queueUrl kept }

theorem applySpawn_applied {deployment : Deployment} {before after : State} {call : ℕ}
    {intent : SpawnIntent} {outcome : SpawnOutcome} {container : ℕ} {startedAt : ℚ}
    (applied : applySpawn deployment before call intent outcome container startedAt =
      some after) :
    SpawnApplied deployment
      { before with
        pool := outcome.pool
        sessions := outcome.sessions
        spawns := before.spawns.insert call ⟨intent, outcome.pc⟩ }
      intent outcome container startedAt after := by
  unfold applySpawn at applied
  split at applied
  · rename_i _ _ victim evicted
    cases applied
    exact .evicts victim evicted
  · cases applied
    exact .quiet
  · rename_i queueUrl _ launched
    split at applied
    · cases applied
    · cases applied
      exact .launches queueUrl launched

/-- Every step has one of the effects. -/
theorem step_effect {deployment : Deployment} {before after : State} {action : Action}
    (taken : step deployment before action = some after) :
    StepEffect deployment before action after := by
  cases action with
  | connect sessionId request fault announced =>
      cases taken
      exact .connect sessionId request fault announced
  | disconnect router sessionId now fault =>
      simp only [step] at taken
      split at taken
      · cases taken
        exact .disconnect router sessionId now fault
      · cases taken
  | route router event now readable =>
      simp only [step] at taken
      split at taken
      · rename_i ready
        cases taken
        exact .route router event now readable ready.2
      · cases taken
  | sendFrame router messageId =>
      simp only [step] at taken
      split at taken
      · cases taken
      · rename_i request sending
        split at taken
        · cases taken
          exact .dropsFrame router request sending
        · cases taken
          exact .sendsFrame router _ request sending
  | deliver call intent =>
      simp only [step] at taken
      split at taken
      · rename_i announced
        cases taken
        exact .deliver call intent announced.1
      · cases taken
  | spawn call input container startedAt =>
      simp only [step] at taken
      split at taken
      · cases taken
      · rename_i intent pc running
        obtain ⟨outcome, moved, applied⟩ := Option.bind_eq_some_iff.mp taken
        exact .spawn call input container startedAt running moved (applySpawn_applied applied)
  | settle call =>
      simp only [step] at taken
      split at taken
      · rename_i intent ended
        cases taken
        exact .settle call intent ended
      · cases taken
  | transcribe container input =>
      simp only [step] at taken
      split at taken
      · cases taken
      · rename_i held found
        split at taken
        · rename_i ready
          obtain ⟨next, moved, rfl⟩ := Option.map_eq_some_iff.mp taken
          exact .transcribe container input held next found ready.1 ready.2 moved
        · cases taken
  | exit container =>
      cases taken
      exact .exit container
  | forget queueUrl kept =>
      simp only [step] at taken
      split at taken
      · rename_i sublist
        cases taken
        exact .forget queueUrl kept sublist
      · cases taken

/-- A conditional put of one row removes no other row. -/
theorem mem_send_insert {κ ν : Type*} [DecidableEq κ] {table : Table κ ν} {other : κ}
    (member : other ∈ table) (fault : Fault) (key : κ) (row : Option ν) :
    other ∈ (send fault table (row.map fun row => table.insert key row)).table := by
  rcases send_cases fault table (row.map fun row => table.insert key row) with
    ⟨_, updated⟩ | ⟨_, same⟩
  · obtain ⟨_, _, reached⟩ := Option.map_eq_some_iff.mp updated
    rw [← reached]
    exact (AList.mem_insert _).mpr (Or.inr member)
  · rw [same]
    exact member

/-! ## The callbacks and the rows they hold -/

/-- A callback that holds a row holds it for its own session, and alone. -/
structure Holding (owner : ℤ → Option String) (spawns : Table ℕ Spawn) : Prop where
  held : spawns.All fun _ spawn => ∀ poolId, spawn.pc.held = some poolId →
    owner poolId = some spawn.intent.sessionId
  alone : ∀ one other first second poolId, spawns.lookup one = some first →
    spawns.lookup other = some second → first.pc.held = some poolId →
    second.pc.held = some poolId → one = other

theorem Holding.empty {owner : ℤ → Option String} : Holding owner ∅ :=
  ⟨Table.All.empty, by rintro _ _ _ _ _ ⟨⟩⟩

variable {owner : ℤ → Option String} {spawns : Table ℕ Spawn} {call : ℕ} {intent : SpawnIntent}
  {pc : SpawnPc}

/-- A callback that holds no row may start or move on. -/
theorem Holding.insert_idle (holding : Holding owner spawns) (call : ℕ) (intent : SpawnIntent)
    (idle : pc.held = none) : Holding owner (spawns.insert call ⟨intent, pc⟩) := by
  constructor
  · apply holding.held.insert
    intro poolId held
    cases idle.symm.trans held
  · intro one other first second poolId found also held too
    rcases Table.lookup_insert_cases found with ⟨rfl, rfl⟩ | ⟨_, before⟩
    · cases idle.symm.trans held
    · rcases Table.lookup_insert_cases also with ⟨rfl, rfl⟩ | ⟨_, earlier⟩
      · cases idle.symm.trans too
      · exact holding.alone one other first second poolId before earlier held too

/-- A callback keeps the row it holds or gives it up. -/
theorem Holding.insert_kept (holding : Holding owner spawns)
    (running : spawns.lookup call = some ⟨intent, pc⟩) {next : SpawnPc}
    (kept : next.held = pc.held ∨ next.held = none) :
    Holding owner (spawns.insert call ⟨intent, next⟩) := by
  rcases kept with same | idle
  · have before := holding.held call _ running
    constructor
    · apply holding.held.insert
      intro poolId held
      exact before poolId (same.symm.trans held)
    · intro one other first second poolId found also held too
      rcases Table.lookup_insert_cases found with ⟨rfl, rfl⟩ | ⟨_, foundBefore⟩
      · rcases Table.lookup_insert_cases also with ⟨rfl, rfl⟩ | ⟨_, alsoBefore⟩
        · rfl
        · exact holding.alone _ _ _ _ poolId running alsoBefore (same.symm.trans held) too
      · rcases Table.lookup_insert_cases also with ⟨rfl, rfl⟩ | ⟨_, alsoBefore⟩
        · exact holding.alone _ _ _ _ poolId foundBefore running held (same.symm.trans too)
        · exact holding.alone one other first second poolId foundBefore alsoBefore held too
  · exact holding.insert_idle call intent idle

/-- Claiming a free row leaves the rows that others hold. -/
theorem Holding.claim (holding : Holding owner spawns) {poolId : ℤ} (free : owner poolId = none)
    {next : SpawnPc} (held : next.held = some poolId ∨ next.held = none) :
    Holding (Function.update owner poolId (some intent.sessionId))
      (spawns.insert call ⟨intent, next⟩) := by
  have unheld : ∀ other spawn, spawns.lookup other = some spawn →
      spawn.pc.held ≠ some poolId := by
    intro other spawn found taken
    cases free.symm.trans (holding.held other spawn found poolId taken)
  have elsewhere : Holding (Function.update owner poolId (some intent.sessionId)) spawns := by
    refine ⟨?_, holding.alone⟩
    intro other spawn found row taken
    have different : row ≠ poolId := by
      intro same
      subst same
      exact unheld other spawn found taken
    rw [Function.update_of_ne different]
    exact holding.held other spawn found row taken
  rcases held with this | idle
  · constructor
    · apply elsewhere.held.insert
      intro row taken
      cases this.symm.trans taken
      rw [Function.update_self]
    · intro one other first second row found also taken too
      rcases Table.lookup_insert_cases found with ⟨rfl, rfl⟩ | ⟨_, foundBefore⟩
      · rcases Table.lookup_insert_cases also with ⟨rfl, rfl⟩ | ⟨_, alsoBefore⟩
        · rfl
        · cases this.symm.trans taken
          exact absurd too (unheld _ _ alsoBefore)
      · rcases Table.lookup_insert_cases also with ⟨rfl, rfl⟩ | ⟨_, alsoBefore⟩
        · cases this.symm.trans too
          exact absurd taken (unheld _ _ foundBefore)
        · exact holding.alone one other first second row foundBefore alsoBefore taken too
  · exact elsewhere.insert_idle call intent idle

/-- Giving back a row leaves the rows that others hold. -/
theorem Holding.release (holding : Holding owner spawns) {poolId : ℤ}
    (running : spawns.lookup call = some ⟨intent, pc⟩) (held : pc.held = some poolId)
    {next : SpawnPc} (idle : next.held = none) :
    Holding (Function.update owner poolId none) (spawns.insert call ⟨intent, next⟩) := by
  have cleared := holding.insert_idle call intent idle
  refine ⟨?_, cleared.alone⟩
  intro other spawn found row taken
  have different : row ≠ poolId := by
    intro same
    subst same
    rcases Table.lookup_insert_cases found with ⟨rfl, rfl⟩ | ⟨apart, before⟩
    · cases idle.symm.trans taken
    · exact apart (holding.alone _ _ _ _ row before running taken held)
  rw [Function.update_of_ne different]
  exact cleared.held other spawn found row taken

/-- Every request of a callback keeps the rows apart. -/
theorem Holding.step {pool : PoolTable} {sessions : SessionTable} {input : SpawnInput}
    {outcome : SpawnOutcome} (holding : Holding pool.owner spawns)
    (running : spawns.lookup call = some ⟨intent, pc⟩)
    (effect : SpawnEffect call intent pool sessions pc input outcome) :
    Holding outcome.pool.owner (spawns.insert call ⟨intent, outcome.pc⟩) := by
  cases effect with
  | quiet _ rows _ _ held _ =>
      rw [rows]
      exact holding.insert_kept running held
  | claims poolId _ free owners _ _ _ _ _ held =>
      rw [owners]
      exact holding.claim free held
  | releases poolId _ _ owners _ _ _ releasing _ idle =>
      rw [owners]
      exact holding.release running (SpawnPc.held_of_releasing releasing) idle
  | updatesRow result row at_pc _ rows _ _ _ held =>
      rw [rows]
      refine holding.insert_kept running (Or.inl ?_)
      rw [held, at_pc]
      rfl
  | launches result at_pc _ rows _ _ held _ =>
      rw [rows]
      refine holding.insert_kept running ?_
      rw [at_pc]
      exact held

/-! ## A small deployment -/

/-- Two rows as they are seeded. -/
def twoRows : PoolTable :=
  AList.insert 1 ⟨.str "queue-1", none, none⟩ (AList.insert 0 ⟨.str "queue-0", none, none⟩ ∅)

theorem twoRows_rowAt (poolId : ℤ) :
    (poolId = 0 ∧ twoRows.rowAt poolId = ⟨.str "queue-0", none, none⟩) ∨
      (poolId = 1 ∧ twoRows.rowAt poolId = ⟨.str "queue-1", none, none⟩) ∨
      twoRows.rowAt poolId = ⟨.none, none, none⟩ := by
  by_cases first : poolId = 0
  · subst first
    exact Or.inl ⟨rfl, rfl⟩
  · by_cases second : poolId = 1
    · subst second
      exact Or.inr (Or.inl ⟨rfl, rfl⟩)
    · refine Or.inr (Or.inr ?_)
      rw [PoolTable.rowAt, twoRows, AList.lookup_insert_ne second, AList.lookup_insert_ne first]
      rfl

/-- A pool of two rows. -/
def samplePool : FramePool where
  seed := twoRows
  legacyUrl := "queue-legacy"
  unclaimed poolId := by
    rcases twoRows_rowAt poolId with ⟨_, row⟩ | ⟨_, row⟩ | row <;> rw [PoolTable.owner, row]
  distinct one other url first second := by
    rcases twoRows_rowAt one with ⟨rfl, row⟩ | ⟨rfl, row⟩ | row <;>
      rcases twoRows_rowAt other with ⟨rfl, also⟩ | ⟨rfl, also⟩ | also <;>
      rw [PoolTable.queueUrl?, row] at first <;>
      rw [PoolTable.queueUrl?, also] at second <;>
      first
        | rfl
        | exact absurd (first.trans second.symm) (by decide)
        | exact absurd first (by rintro ⟨⟩)
  apart poolId := by
    rcases twoRows_rowAt poolId with ⟨_, row⟩ | ⟨_, row⟩ | row <;>
      rw [PoolTable.queueUrl?, row] <;> decide

/-- A client's frame of two zero bytes. -/
def frameText : String := "\x7b\"seq\": 0, \"pcm_b64\": \"AAA=\"\x7d"

/-- When the router receives it. -/
def receivedAt : String := "2026-06-04T00:00:00+00:00"

/-- The queue message the router makes of it. -/
def payloadText (sessionId : String) : String :=
  "\x7b\"seq\": 0, \"pcm_b64\": \"AAA=\", \"session_id\": \"" ++ sessionId ++
    "\", \"body\": \"\x7b\\\"seq\\\": 0, \\\"pcm_b64\\\": \\\"AAA=\\\"\x7d\"" ++
    ", \"received_at\": \"" ++
    receivedAt ++ "\"\x7d"

/-- The library functions on these texts. -/
def sampleDeployment : Deployment where
  pool := samplePool
  decoders :=
    { loads := fun text =>
        let frame := [("seq", .int 0), ("pcm_b64", .str "AAA=")]
        if text = frameText then .ok (.dict frame)
        else
          match ["a", "b"].find? fun sessionId => payloadText sessionId = text with
          | some sessionId => .ok (.dict (frame ++ [("session_id", .str sessionId),
              ("body", .str frameText), ("received_at", .str receivedAt)]))
          | none => .error .jsonDecodeError
      timestamp := fun text => if text = receivedAt then .ok 1780531200 else .error .valueError
      b64decode := fun text => if text = "AAA=" then .ok [0, 0] else .error .valueError }
  dumps
    | .dict entries =>
        match PyJson.get entries "session_id" with
        | .str sessionId => payloadText sessionId
        | _ => ""
    | _ => ""
  maxConcurrentSessions := 0

/-- A session connects, and its callback claims a row and updates the session row. -/
def claimActions (call : ℕ) (sessionId : String) (poolId : ℤ) : List Action :=
  [.connect sessionId ⟨"user", "tenant", "member", "t", 0, none, none⟩ .none true,
    .deliver call ⟨sessionId, "user", "tenant"⟩] ++ spawnActions call poolId
where
  /-- The requests of the callback. -/
  spawnActions (call : ℕ) (poolId : ℤ) : List Action :=
    [.spawn call (.claim (.scan [some poolId] [poolId])) 0 0,
      .spawn call (.claim (.update .none "t")) 0 0, .spawn call (.claim (.getItem true)) 0 0,
      .spawn call (.claim .drained) 0 0, .spawn call (.updateRow .none) 0 0]

end Panakoes.Streaming
