import Panakoes.Streaming.System

/-! # Isolation of the sessions' audio

The queue URL of a claimed row is copied into the session row, from there into
router caches and events, and into the container's environment. As long as a
row is only given back when no copy of its URL is left in the hands of the
session that gives it back, every copy belongs to the session that owns the row:
no frame is sent to another session's queue, and a container receives frames of
its own session only. A failed launch gives its row back with the URL still in
the session row.
-/

namespace Panakoes.Streaming

open Transition ConditionalWrite GpuSpawner StreamingRouter TranscriberStream

/-- The router may still send frames of the session to the queue. -/
def WarmRouter.Names (router : WarmRouter) (sessionId queueUrl : String) : Prop :=
  (∃ entry ∈ router.cache, entry.connectionId = sessionId ∧ entry.queueUrl = queueUrl ∧
      entry.Fresh router.clock) ∨
    ∃ request ∈ router.sending, request.sessionId = sessionId ∧ request.queueUrl = queueUrl

instance (router : WarmRouter) (sessionId queueUrl : String) :
    Decidable (router.Names sessionId queueUrl) :=
  inferInstanceAs (Decidable ((∃ entry ∈ router.cache, _) ∨ ∃ request ∈ router.sending, _))

/-- The container runs for the session on the queue. -/
def Container.Serves (container : Container) (sessionId queueUrl : String) : Prop :=
  container.running = true ∧ container.sessionId = sessionId ∧ container.queueUrl = queueUrl

instance (container : Container) (sessionId queueUrl : String) :
    Decidable (container.Serves sessionId queueUrl) :=
  inferInstanceAs (Decidable (_ ∧ _))

namespace State

/-- The queue holds a frame of the session. -/
def QueueNames (state : State) (sessionId queueUrl : String) : Prop :=
  ∃ frame ∈ state.queueAt queueUrl, frame.sender = sessionId

instance (state : State) (sessionId queueUrl : String) :
    Decidable (state.QueueNames sessionId queueUrl) :=
  inferInstanceAs (Decidable (∃ frame ∈ state.queueAt queueUrl, _))

/-- The session has not let go of the queue: its row, a router, the queue
itself or a running container still ties them together. -/
def Names (state : State) (sessionId queueUrl : String) : Prop :=
  state.RowNames sessionId queueUrl ∨
    state.routers.Any (fun _ router => router.Names sessionId queueUrl) ∨
    state.QueueNames sessionId queueUrl ∨
    state.containers.Any fun _ container => container.Serves sessionId queueUrl

instance (state : State) (sessionId queueUrl : String) :
    Decidable (state.Names sessionId queueUrl) :=
  inferInstanceAs (Decidable (_ ∨ _ ∨ _ ∨ _))

end State

/-- A row is given back only when its session has let go of its queue. -/
def ReleasesUnnamed (state : State) : Action → Prop
  | .spawn call input _ _ =>
      ∀ spawn ∈ state.spawns.lookup call, ∀ poolId ∈ spawn.pc.releasing?,
        ∀ queueUrl ∈ state.pool.queueUrl? poolId,
          input.Arrives → ¬ state.Names spawn.intent.sessionId queueUrl
  | _ => True

instance (state : State) (action : Action) : Decidable (ReleasesUnnamed state action) :=
  match action with
  | .spawn call _ _ _ => inferInstanceAs (Decidable (∀ spawn ∈ state.spawns.lookup call,
      ∀ poolId ∈ spawn.pc.releasing?, ∀ queueUrl ∈ state.pool.queueUrl? poolId, _ → ¬ _))
  | .connect .. | .disconnect .. | .route .. | .sendFrame .. | .deliver .. | .settle _
  | .transcribe .. | .exit _ | .forget .. => .isTrue trivial

/-! ## The invariant -/

/-- If the queue is in the pool, its row is owned by the session. -/
def FramePool.Owned (pool : FramePool) (owner : ℤ → Option String)
    (sessionId queueUrl : String) : Prop :=
  ∀ poolId, pool.seed.queueUrl? poolId = some queueUrl → owner poolId = some sessionId

/-- What a container has received was sent for its session, and its consumer
yields nothing else. -/
structure Container.Faithful (container : Container) : Prop where
  own : ∀ entry ∈ container.received, entry.1.sender = container.sessionId
  genuine : container.state.Genuine container.consumer container.messages

/-- Every tie between a session and a pool queue is backed by ownership. -/
structure Isolated (pool : FramePool) (state : State) : Prop where
  urls : state.pool.queueUrl? = pool.seed.queueUrl?
  owned : ∀ sessionId queueUrl, state.Names sessionId queueUrl →
    pool.Owned state.pool.owner sessionId queueUrl
  holding : Holding state.pool.owner state.spawns
  claimed : state.spawns.All fun _ spawn => ∀ result, spawn.pc.claimed = some result →
    pool.seed.queueUrl? result.poolId = some result.queueUrl
  pooled : state.containers.All fun _ container =>
    ∃ poolId, pool.seed.queueUrl? poolId = some container.queueUrl
  faithful : state.containers.All fun _ container => container.Faithful

variable {pool : FramePool} {before after : State}

/-- The queue of a claim belongs to the session that claimed it. -/
theorem Isolated.owned_of_claimed (isolated : Isolated pool before) {call : ℕ}
    {intent : SpawnIntent} {pc : SpawnPc} {result : PoolClaimResult}
    (running : before.spawns.lookup call = some ⟨intent, pc⟩) (claimed : pc.claimed = some result) :
    pool.seed.queueUrl? result.poolId = some result.queueUrl ∧
      pool.Owned before.pool.owner intent.sessionId result.queueUrl := by
  have url := isolated.claimed call _ running result claimed
  refine ⟨url, fun poolId also => ?_⟩
  have same := pool.distinct _ _ _ also url
  subst same
  exact isolated.holding.held call _ running _ (SpawnPc.held_of_claimed claimed)

/-- A step that leaves the pool alone and only adds ties backed by ownership. -/
theorem Isolated.transfer (isolated : Isolated pool before) (rows : after.pool = before.pool)
    (holding : Holding after.pool.owner after.spawns)
    (claimed : after.spawns.All fun _ spawn => ∀ result, spawn.pc.claimed = some result →
      pool.seed.queueUrl? result.poolId = some result.queueUrl)
    (pooled : after.containers.All fun _ container =>
      ∃ poolId, pool.seed.queueUrl? poolId = some container.queueUrl)
    (faithful : after.containers.All fun _ container => container.Faithful)
    (names : ∀ sessionId queueUrl, after.Names sessionId queueUrl →
      before.Names sessionId queueUrl ∨ pool.Owned before.pool.owner sessionId queueUrl) :
    Isolated pool after := by
  refine ⟨rows ▸ isolated.urls, ?_, holding, claimed, pooled, faithful⟩
  intro sessionId queueUrl tied
  rw [rows]
  rcases names sessionId queueUrl tied with earlier | owned
  · exact isolated.owned sessionId queueUrl earlier
  · exact owned

/-- A step of the routers or the queues that only adds ties backed by ownership. -/
theorem Isolated.retie (isolated : Isolated pool before) (rows : after.pool = before.pool)
    (spawns : after.spawns = before.spawns) (containers : after.containers = before.containers)
    (names : ∀ sessionId queueUrl, after.Names sessionId queueUrl →
      before.Names sessionId queueUrl ∨ pool.Owned before.pool.owner sessionId queueUrl) :
    Isolated pool after := by
  refine isolated.transfer rows ?_ ?_ ?_ ?_ names
  · rw [rows, spawns]
    exact isolated.holding
  · rw [spawns]
    exact isolated.claimed
  · rw [containers]
    exact isolated.pooled
  · rw [containers]
    exact isolated.faithful

/-- What a router ties, some router of the system ties. -/
theorem State.any_of_routerAt {state : State} {router : ℕ} {sessionId queueUrl : String}
    (names : (state.routerAt router).Names sessionId queueUrl) :
    state.routers.Any fun _ warm => warm.Names sessionId queueUrl := by
  unfold State.routerAt at names
  cases held : state.routers.lookup router with
  | some warm =>
      rw [held] at names
      exact ⟨router, warm, held, names⟩
  | none =>
      rw [held] at names
      rcases names with ⟨entry, member, _⟩ | ⟨request, sending, _⟩
      · exact absurd member List.not_mem_nil
      · cases sending

/-! ## The routers -/

theorem Isolated.connect (isolated : Isolated pool before) (sessionId : String)
    (request : ConnectRequest) (fault : Fault) (announced : Bool) :
    Isolated pool (connectStep before sessionId request fault announced) := by
  refine isolated.retie rfl rfl rfl ?_
  intro other queueUrl tied
  refine Or.inl (tied.imp ?_ id)
  rintro ⟨row, held, named⟩
  change row ∈ (send fault before.sessions _).table.lookup other at held
  rcases send_cases fault before.sessions
    (some (before.sessions.insert sessionId (connectItem sessionId request))) with
    ⟨_, updated⟩ | ⟨_, same⟩
  · rw [← Option.some.inj updated] at held
    rcases Table.lookup_insert_cases held with ⟨_, rfl⟩ | ⟨_, earlier⟩
    · cases named
    · exact ⟨row, earlier, named⟩
  · rw [same] at held
    exact ⟨row, held, named⟩

theorem Isolated.disconnect (isolated : Isolated pool before) (router : ℕ)
    (sessionId now : String) (fault : Fault) :
    Isolated pool (disconnectStep before router sessionId now fault) := by
  refine isolated.retie rfl rfl rfl ?_
  intro other queueUrl tied
  refine Or.inl (tied.imp ?_ (Or.imp ?_ id))
  · rintro ⟨row, held, named⟩
    change row ∈ (send fault before.sessions _).table.lookup other at held
    rcases send_cases fault before.sessions
      ((disconnectUpdate now (before.sessions.lookup sessionId)).map fun row =>
        before.sessions.insert sessionId row) with ⟨_, updated⟩ | ⟨_, same⟩
    · obtain ⟨marked, found, reached⟩ := Option.map_eq_some_iff.mp updated
      rw [← reached] at held
      rcases Table.lookup_insert_cases held with ⟨rfl, rfl⟩ | ⟨_, earlier⟩
      · obtain ⟨unmarked, was, rfl⟩ := Option.map_eq_some_iff.mp found
        exact ⟨unmarked, was, named⟩
      · exact ⟨row, earlier, named⟩
    · rw [same] at held
      exact ⟨row, held, named⟩
  · intro tied
    rcases tied.of_insert with new | before
    · apply State.any_of_routerAt
      rcases new with ⟨entry, member, rest⟩ | sending
      · exact Or.inl ⟨entry, QueueUrlCache.mem_of_mem_pop member, rest⟩
      · exact Or.inr sending
    · exact before

theorem Isolated.route (isolated : Isolated pool before) {deployment : Deployment}
    (deployed : deployment.pool = pool) (router : ℕ) (event : FrameEvent) {now : ℚ}
    (readable : Bool) (later : (before.routerAt router).clock ≤ now) :
    Isolated pool (routeStep deployment before router event now readable) := by
  refine isolated.retie rfl rfl rfl ?_
  -- A readable row and a fresh entry both tie the session to the queue already.
  have readNames : ∀ queueUrl, (if readable then RowRead.item
      (before.sessions.lookup event.connectionId) else .failed).Names queueUrl →
      before.RowNames event.connectionId queueUrl := by
    intro queueUrl ⟨row, read, named⟩
    split at read
    · exact ⟨row, RowRead.item.inj read, named⟩
    · cases read
  have freshNames : ∀ entry ∈ (before.routerAt router).cache, entry.Fresh now →
      before.Names entry.connectionId entry.queueUrl := by
    intro entry member fresh
    exact Or.inr (Or.inl (State.any_of_routerAt
      (Or.inl ⟨entry, member, rfl, rfl, fresh.earlier later⟩)))
  obtain ⟨requests, entries⟩ := routeAudioFrame_spec deployment.codec deployment.pool.legacyUrl
    (before.routerAt router).cache event now
    (if readable then .item (before.sessions.lookup event.connectionId) else .failed)
  intro sessionId queueUrl tied
  rcases tied with row | routers | rest
  · exact Or.inl (Or.inl row)
  · rcases routers.of_insert with new | earlier
    · rcases new with ⟨entry, member, rfl, rfl, fresh⟩ | ⟨request, sending, rfl, rfl⟩
      · rcases entries entry member with cached | ⟨connection, named⟩
        · exact Or.inl (freshNames entry cached fresh)
        · rw [connection]
          exact Or.inl (Or.inl (readNames _ named))
      · obtain ⟨connection, source⟩ := requests request sending
        rw [connection]
        rcases source with legacy | named | ⟨entry, member, owner, url, fresh⟩
        · refine Or.inr fun poolId seeded => ?_
          rw [legacy, deployed] at seeded
          exact absurd seeded (pool.apart poolId)
        · exact Or.inl (Or.inl (readNames _ named))
        · rw [← owner, ← url]
          exact Or.inl (freshNames entry member fresh)
    · exact Or.inl (Or.inr (Or.inl earlier))
  · exact Or.inl (Or.inr (Or.inr rest))

/-- The message of a send stays with the session that the event was from. -/
theorem Isolated.sendFrame (isolated : Isolated pool before) {router : ℕ} {request : SendRequest}
    (sending : (before.routerAt router).sending = some request) (messageId : String) :
    Isolated pool
      { before with
        routers := before.routers.insert router { before.routerAt router with sending := none }
        queues := before.queues.insert request.queueUrl (before.queueAt request.queueUrl ++
          [⟨messageId, request.sessionId, request.messageBody⟩]) } := by
  refine isolated.retie rfl rfl rfl ?_
  intro sessionId queueUrl tied
  rcases tied with row | routers | ⟨frame, member, sender⟩ | containers
  · exact Or.inl (Or.inl row)
  · rcases routers.of_insert with new | earlier
    · rcases new with cached | ⟨_, gone, _⟩
      · exact Or.inl (Or.inr (Or.inl (State.any_of_routerAt (Or.inl cached))))
      · cases gone
    · exact Or.inl (Or.inr (Or.inl earlier))
  · by_cases same : queueUrl = request.queueUrl
    · subst same
      rw [State.queueAt, AList.lookup_insert, Option.getD_some] at member
      rcases List.mem_append.mp member with earlier | new
      · exact Or.inl (Or.inr (Or.inr (Or.inl ⟨frame, earlier, sender⟩)))
      · rw [List.mem_singleton] at new
        subst new
        exact Or.inl (Or.inr (Or.inl (State.any_of_routerAt
          (Or.inr ⟨request, sending, sender, rfl⟩))))
    · rw [State.queueAt, AList.lookup_insert_ne same] at member
      exact Or.inl (Or.inr (Or.inr (Or.inl ⟨frame, member, sender⟩)))
  · exact Or.inl (Or.inr (Or.inr (Or.inr containers)))

/-- A send that fails leaves nothing behind. -/
theorem Isolated.dropFrame (isolated : Isolated pool before) (router : ℕ) :
    Isolated pool
      { before with
        routers := before.routers.insert router
          { before.routerAt router with sending := none } } := by
  refine isolated.retie rfl rfl rfl ?_
  intro sessionId queueUrl tied
  refine Or.inl (tied.imp id (Or.imp ?_ id))
  intro routers
  rcases routers.of_insert with new | earlier
  · rcases new with cached | ⟨_, gone, _⟩
    · exact State.any_of_routerAt (Or.inl cached)
    · cases gone
  · exact earlier

/-! ## The containers -/

/-- Changing one container, to one that serves no other queue. -/
theorem Isolated.setContainer (isolated : Isolated pool before) {container : ℕ}
    {held : Container} (found : before.containers.lookup container = some held) (next : Container)
    (serves : next.running = true → held.running = true)
    (session : next.sessionId = held.sessionId) (url : next.queueUrl = held.queueUrl)
    (faithful : next.Faithful) (ended : List String) :
    Isolated pool
      { before with containers := before.containers.insert container next, ended } := by
  refine isolated.transfer rfl isolated.holding isolated.claimed
    (isolated.pooled.insert ?_) (isolated.faithful.insert faithful) ?_
  · rw [url]
    exact isolated.pooled container held found
  · intro sessionId queueUrl tied
    refine Or.inl (tied.imp id (Or.imp id (Or.imp id ?_)))
    intro containers
    rcases containers.of_insert with ⟨running, rfl, rfl⟩ | earlier
    · exact ⟨container, held, found, serves running, session.symm, url.symm⟩
    · exact earlier

theorem Isolated.halt (isolated : Isolated pool before) (container : ℕ) :
    Isolated pool (before.halt container) := by
  unfold State.halt
  split
  · exact isolated
  · rename_i held found
    have faithful := isolated.faithful container held found
    have stopped : { held with running := false }.Faithful := ⟨faithful.own, faithful.genuine⟩
    exact isolated.setContainer found { held with running := false } Bool.noConfusion rfl rfl
      stopped _

/-- A container receives frames of its own session only. -/
theorem Isolated.transcribe (isolated : Isolated pool before) {container : ℕ} {held : Container}
    (found : before.containers.lookup container = some held) (running : held.running = true)
    {input : ConsumerInput}
    (queued : ∀ entry ∈ input.batch, entry.1 ∈ before.queueAt held.queueUrl)
    {next : SQSConsumer.State} (taken : held.consumer.step held.state input.action = some next) :
    Isolated pool
      { before with
        containers := before.containers.insert container
          { held with state := next, received := held.received ++ input.batch } } := by
  obtain ⟨poolId, url⟩ := isolated.pooled container held found
  have faithful := isolated.faithful container held found
  have serves : before.Names held.sessionId held.queueUrl :=
    Or.inr (Or.inr (Or.inr ⟨container, held, found, running, rfl, rfl⟩))
  have mine := isolated.owned _ _ serves poolId url
  have transcribed : Container.Faithful
      { held with state := next, received := held.received ++ input.batch } := by
    constructor
    · intro entry member
      rcases List.mem_append.mp member with earlier | new
      · exact faithful.own entry earlier
      · have named : before.Names entry.1.sender held.queueUrl :=
          Or.inr (Or.inr (Or.inl ⟨entry.1, queued entry new, rfl⟩))
        have theirs := isolated.owned _ _ named poolId url
        exact Option.some.inj (theirs.symm.trans mine)
    · have messages : input.action.messages =
          input.batch.map fun entry => entry.1.message entry.2 := by
        cases input <;> rfl
      have genuine := SQSConsumer.step_genuine faithful.genuine taken
      rw [messages] at genuine
      change next.Genuine held.consumer ((held.received ++ input.batch).map _)
      rw [List.map_append]
      exact genuine
  exact isolated.setContainer found
    { held with state := next, received := held.received ++ input.batch } id rfl rfl transcribed
    before.ended

theorem Isolated.forget (isolated : Isolated pool before) {queueUrl : String}
    {kept : List QueuedFrame} (sublist : kept.Sublist (before.queueAt queueUrl)) :
    Isolated pool { before with queues := before.queues.insert queueUrl kept } := by
  refine isolated.retie rfl rfl rfl ?_
  intro sessionId other tied
  refine Or.inl (tied.imp id (Or.imp id (Or.imp ?_ id)))
  rintro ⟨frame, member, sender⟩
  by_cases same : other = queueUrl
  · subst same
    rw [State.queueAt, AList.lookup_insert, Option.getD_some] at member
    exact ⟨frame, sublist.subset member, sender⟩
  · rw [State.queueAt, AList.lookup_insert_ne same] at member
    exact ⟨frame, member, sender⟩

/-! ## The callbacks -/

/-- A callback changes no tie but those of the session rows. -/
theorem State.Names.of_callback {table : PoolTable} {sessions : SessionTable}
    {spawns : Table ℕ Spawn} {sessionId queueUrl : String}
    (tied : State.Names { before with pool := table, sessions, spawns } sessionId queueUrl) :
    (∃ row ∈ sessions.lookup sessionId, row.frameQueueUrl = some queueUrl) ∨
      before.Names sessionId queueUrl := by
  rcases tied with row | rest
  · exact Or.inl row
  · exact Or.inr (Or.inr rest)

theorem State.Names.of_unwritten {table : PoolTable} {sessions : SessionTable}
    {spawns : Table ℕ Spawn} {sessionId queueUrl : String} (same : sessions = before.sessions)
    (tied : State.Names { before with pool := table, sessions, spawns } sessionId queueUrl) :
    before.Names sessionId queueUrl := by
  subst same
  exact tied.of_callback.elim Or.inl id

/-- Changing the owner of a row with another queue. -/
theorem FramePool.Owned.update {owner : ℤ → Option String} {sessionId queueUrl : String}
    (owned : pool.Owned owner sessionId queueUrl) {poolId : ℤ} (next : Option String)
    (spared : pool.seed.queueUrl? poolId ≠ some queueUrl) :
    pool.Owned (Function.update owner poolId next) sessionId queueUrl := by
  intro row seeded
  have different : row ≠ poolId := by
    rintro rfl
    exact spared seeded
  rw [Function.update_of_ne different]
  exact owned row seeded

/-- A request of a callback, before an eviction or a launch takes effect. -/
theorem Isolated.callback (isolated : Isolated pool before) {cap : ℤ} {call : ℕ}
    {intent : SpawnIntent} {pc : SpawnPc} {input : SpawnInput} {outcome : SpawnOutcome}
    (running : before.spawns.lookup call = some ⟨intent, pc⟩)
    (kept : ∀ poolId ∈ pc.releasing?, ∀ queueUrl ∈ before.pool.queueUrl? poolId,
      input.Arrives → ¬ before.Names intent.sessionId queueUrl)
    (taken : spawnStep cap call intent before.pool before.sessions pc input = some outcome) :
    Isolated pool
      { before with
        pool := outcome.pool
        sessions := outcome.sessions
        spawns := before.spawns.insert call ⟨intent, outcome.pc⟩ } := by
  have effect := spawnStep_effect taken
  have holding := isolated.holding.step running effect
  have claimed : Table.All (before.spawns.insert call ⟨intent, outcome.pc⟩) fun _ spawn =>
      ∀ result, spawn.pc.claimed = some result →
        pool.seed.queueUrl? result.poolId = some result.queueUrl := by
    apply Table.All.insert isolated.claimed
    intro result found
    rcases claimed_of_spawnStep taken found with earlier | read
    · exact isolated.claimed call _ running result earlier
    · rw [← isolated.urls]
      exact read
  cases effect with
  | quiet _ rows same _ _ _ =>
      exact isolated.transfer rows holding claimed isolated.pooled isolated.faithful
        fun _ _ tied => Or.inl (tied.of_unwritten same)
  | claims poolId _ free owners urls same _ _ _ _ =>
      refine ⟨urls.trans isolated.urls, ?_, holding, claimed, isolated.pooled, isolated.faithful⟩
      intro sessionId queueUrl tied
      have owned := isolated.owned sessionId queueUrl (tied.of_unwritten same)
      rw [owners]
      refine owned.update (some intent.sessionId) fun seeded => ?_
      cases free.symm.trans (owned poolId seeded)
  | releases poolId _ mine owners urls same _ releasing arrives _ =>
      refine ⟨urls.trans isolated.urls, ?_, holding, claimed, isolated.pooled, isolated.faithful⟩
      intro sessionId queueUrl tied
      have earlier := tied.of_unwritten same
      have owned := isolated.owned sessionId queueUrl earlier
      rw [owners]
      refine owned.update none fun seeded => ?_
      -- The row given back is the session's own, which has let go of its queue.
      cases (owned poolId seeded).symm.trans mine
      have url : before.pool.queueUrl? poolId = some queueUrl := by
        rw [isolated.urls]
        exact seeded
      exact kept poolId releasing queueUrl url arrives earlier
  | updatesRow result row at_pc _ rows updated written _ _ =>
      refine isolated.transfer rows holding claimed isolated.pooled isolated.faithful ?_
      intro sessionId queueUrl tied
      rcases tied.of_callback with ⟨found, held, named⟩ | earlier
      · rw [written] at held
        rcases Table.lookup_insert_cases held with ⟨rfl, rfl⟩ | ⟨_, before⟩
        · obtain ⟨_, _, rfl⟩ := Option.map_eq_some_iff.mp updated
          cases named
          refine Or.inr (isolated.owned_of_claimed running ?_).2
          rw [at_pc]
          rfl
        · exact Or.inl (Or.inl ⟨found, before, named⟩)
      · exact Or.inl earlier
  | launches _ _ _ rows same _ _ _ =>
      exact isolated.transfer rows holding claimed isolated.pooled isolated.faithful
        fun _ _ tied => Or.inl (tied.of_unwritten same)

/-- A container started on a queue of its session. -/
theorem Isolated.launch (isolated : Isolated pool before) {sessionId queueUrl : String} {poolId : ℤ}
    (url : pool.seed.queueUrl? poolId = some queueUrl)
    (owned : pool.Owned before.pool.owner sessionId queueUrl) (container : ℕ)
    (consumer : SQSConsumer) :
    Isolated pool
      { before with
        containers := before.containers.insert container
          ⟨sessionId, queueUrl, consumer, SQSConsumer.initial, [], true⟩ } := by
  refine isolated.transfer rfl isolated.holding isolated.claimed
    (isolated.pooled.insert ⟨poolId, url⟩) (isolated.faithful.insert ⟨?_, ?_⟩) ?_
  · exact fun _ member => absurd member List.not_mem_nil
  · exact SQSConsumer.initial_genuine
  · intro other otherUrl tied
    rcases tied with row | routers | queued | containers
    · exact Or.inl (Or.inl row)
    · exact Or.inl (Or.inr (Or.inl routers))
    · exact Or.inl (Or.inr (Or.inr (Or.inl queued)))
    · rcases containers.of_insert with ⟨_, rfl, rfl⟩ | earlier
      · exact Or.inr owned
      · exact Or.inl (Or.inr (Or.inr (Or.inr earlier)))

/-! ## The system -/

theorem initial_isolated (deployment : Deployment) :
    Isolated deployment.pool (State.initial deployment) := by
  refine ⟨rfl, ?_, Holding.empty, Table.All.empty, Table.All.empty, Table.All.empty⟩
  rintro sessionId queueUrl (⟨_, held, _⟩ | ⟨_, _, held, _⟩ | ⟨_, member, _⟩ | ⟨_, _, held, _⟩)
  · cases held
  · cases held
  · exact absurd member List.not_mem_nil
  · cases held

/-- Every step keeps the sessions apart under the condition. -/
theorem step_isolated {deployment : Deployment} {action : Action}
    (isolated : Isolated deployment.pool before) (kept : ReleasesUnnamed before action)
    (taken : step deployment before action = some after) : Isolated deployment.pool after := by
  cases step_effect taken with
  | connect sessionId request fault announced =>
      exact isolated.connect sessionId request fault announced
  | disconnect router sessionId now fault => exact isolated.disconnect router sessionId now fault
  | route router event now readable later => exact isolated.route rfl router event readable later
  | dropsFrame router _ _ => exact isolated.dropFrame router
  | sendsFrame router messageId request sending => exact isolated.sendFrame sending messageId
  | deliver call intent announced =>
      obtain ⟨held, claimed⟩ := spawnStart_idle deployment.maxConcurrentSessions
      refine isolated.transfer rfl (isolated.holding.insert_idle call intent held)
        (isolated.claimed.insert ?_) isolated.pooled isolated.faithful fun _ _ => Or.inl
      intro result found
      cases claimed.symm.trans found
  | spawn call input container startedAt running moved applied =>
      have isolatedAfter := isolated.callback running (kept _ running) moved
      cases applied with
      | evicts victim _ => exact isolatedAfter.halt victim
      | quiet => exact isolatedAfter
      | launches queueUrl launched =>
          obtain ⟨result, rfl, rfl, rows, -⟩ := (spawnStep_effect moved).launching launched
          obtain ⟨url, owned⟩ := isolated.owned_of_claimed running rfl
          rw [← rows] at owned
          exact isolatedAfter.launch url owned container _
  | settle call intent ended =>
      exact isolated.transfer rfl isolated.holding isolated.claimed isolated.pooled
        isolated.faithful fun _ _ => Or.inl
  | transcribe container input held next found running queued moved =>
      exact isolated.transcribe found running queued moved
  | exit container => exact isolated.halt container
  | forget queueUrl kept sublist => exact isolated.forget sublist

/-- A frame about to be sent to a pool queue belongs to the session that owns
the queue's row, and what a container has received, and its consumer yielded from
that, are frames of its own session. -/
def AudioIsolated (state : State) : Prop :=
  (∀ router request poolId, (state.routerAt router).sending = some request →
      state.pool.queueUrl? poolId = some request.queueUrl →
      state.pool.owner poolId = some request.sessionId) ∧
    ∀ number container, state.containers.lookup number = some container →
      (∀ received ∈ container.received, received.1.sender = container.sessionId) ∧
        ∀ entry ∈ container.state.yielded, ∃ received ∈ container.received,
          container.consumer.decode (received.1.message received.2) =
            .ok (.frame entry.1 entry.2)

/-- The container 0 is launched and begins to receive. -/
def launchActions (call : ℕ) : List Action :=
  [.spawn call (.runInstance .launched) 0 1780531100, .transcribe 0 (.next 0)]

/-- A frame of session `a` is routed, sent and received by container 0. -/
def frameActions : List Action :=
  [.route 0 ⟨"a", some frameText, receivedAt⟩ 0 true, .sendFrame 0 (some "m"),
    .transcribe 0 (.receive [(⟨"m", "a", payloadText "a"⟩, "r")] 0)]

/-- Session `a` streams to its own container. -/
def ownRun : List Action := claimActions 1 "a" 0 ++ launchActions 1 ++ frameActions

/-- What container 0 has yielded, and whose frames it has received. -/
def observed (state : State) : Option (String × List (Option ℕ × Bytes) × List String) :=
  (state.containers.lookup 0).map fun container =>
    (container.sessionId, container.state.yielded,
      container.received.map fun entry => entry.1.sender)

/-- The launch for `a` is refused; `b` claims the queue, and `a` still streams. -/
def refusedLaunchRun : List Action :=
  claimActions 1 "a" 0 ++ [.spawn 1 (.runInstance .refused) 0 0, .spawn 1 (.release .none) 0 0] ++
    claimActions 2 "b" 0 ++ launchActions 2 ++ frameActions

end Panakoes.Streaming
