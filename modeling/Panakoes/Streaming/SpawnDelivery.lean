import Panakoes.Streaming.System

/-! # Spawn messages delivered more than once

The spawn queue may deliver a message again while its callback runs, after it
has failed, and after it has ended well but the delete has failed. No callback
looks whether an earlier delivery has claimed a row or launched an instance. A
session ends up with one row and one instance at most as long as a callback
claims a row for it only while it has neither.
-/

namespace Panakoes.Streaming

open Transition ConditionalWrite GpuSpawner TranscriberStream

namespace State

/-- Some row of the pool is claimed by the session. -/
def HoldsSlot (state : State) (sessionId : String) : Prop :=
  state.pool.Any fun _ row => row.claimedBy = some sessionId

/-- Some instance has been launched for the session. -/
def Launched (state : State) (sessionId : String) : Prop :=
  state.containers.Any fun _ container => container.sessionId = sessionId

instance (state : State) (sessionId : String) : Decidable (state.HoldsSlot sessionId) :=
  inferInstanceAs (Decidable (Table.Any _ _))

instance (state : State) (sessionId : String) : Decidable (state.Launched sessionId) :=
  inferInstanceAs (Decidable (Table.Any _ _))

theorem holdsSlot_of_owner {state : State} {poolId : ℤ} {sessionId : String}
    (owned : state.pool.owner poolId = some sessionId) : state.HoldsSlot sessionId := by
  unfold PoolTable.owner PoolTable.rowAt at owned
  cases held : state.pool.lookup poolId with
  | some row =>
      rw [held] at owned
      exact ⟨poolId, row, held, owned⟩
  | none =>
      rw [held] at owned
      cases owned

end State

/-- A free row is claimed only for a session without a row and without an
instance. -/
def ClaimsFirst (state : State) : Action → Prop
  | .spawn call input _ _ =>
      ∀ spawn ∈ state.spawns.lookup call, ∀ poolId ∈ spawn.pc.trying?,
        state.pool.owner poolId = none → input.Arrives →
          ¬ state.HoldsSlot spawn.intent.sessionId ∧ ¬ state.Launched spawn.intent.sessionId
  | _ => True

instance (state : State) (action : Action) : Decidable (ClaimsFirst state action) :=
  match action with
  | .spawn call _ _ _ => inferInstanceAs (Decidable (∀ spawn ∈ state.spawns.lookup call,
      ∀ poolId ∈ spawn.pc.trying?, _ → _ → _ ∧ _))
  | .connect .. | .disconnect .. | .route .. | .sendFrame .. | .deliver .. | .settle _
  | .transcribe .. | .exit _ | .forget .. => .isTrue trivial

/-! ## The invariant -/

/-- No session owns two rows. -/
def OneSlotEach (owner : ℤ → Option String) : Prop :=
  ∀ one other sessionId, owner one = some sessionId → owner other = some sessionId → one = other

theorem OneSlotEach.claim {owner : ℤ → Option String} (each : OneSlotEach owner) (poolId : ℤ)
    {sessionId : String} (slotless : ∀ row, owner row ≠ some sessionId) :
    OneSlotEach (Function.update owner poolId (some sessionId)) := by
  intro one other claimant first second
  by_cases new : one = poolId
  · by_cases too : other = poolId
    · exact new.trans too.symm
    · rw [new, Function.update_self] at first
      rw [Function.update_of_ne too] at second
      cases first
      exact absurd second (slotless other)
  · rw [Function.update_of_ne new] at first
    by_cases too : other = poolId
    · rw [too, Function.update_self] at second
      cases second
      exact absurd first (slotless one)
    · rw [Function.update_of_ne too] at second
      exact each one other claimant first second

/-- Who owns a row after one was given back owned it before. -/
theorem owner_of_release {owner : ℤ → Option String} {poolId row : ℤ} {sessionId : String}
    (owned : Function.update owner poolId none row = some sessionId) :
    owner row = some sessionId := by
  by_cases same : row = poolId
  · rw [same, Function.update_self] at owned
    cases owned
  · rw [Function.update_of_ne same] at owned
    exact owned

theorem OneSlotEach.release {owner : ℤ → Option String} (each : OneSlotEach owner) (poolId : ℤ) :
    OneSlotEach (Function.update owner poolId none) :=
  fun one other sessionId first second =>
    each one other sessionId (owner_of_release first) (owner_of_release second)

/-- Every session has one row and one instance at most, and a callback that is
still to launch an instance is for a session without one. -/
structure Once (owner : ℤ → Option String) (spawns : Table ℕ Spawn)
    (containers : Table ℕ Container) : Prop where
  holding : Holding owner spawns
  slots : OneSlotEach owner
  waiting : spawns.All fun _ spawn => ∀ poolId, spawn.pc.pending = some poolId →
    ¬ containers.Any fun _ container => container.sessionId = spawn.intent.sessionId
  single : ∀ one other first second, containers.lookup one = some first →
    containers.lookup other = some second → first.sessionId = second.sessionId → one = other

variable {owner : ℤ → Option String} {spawns : Table ℕ Spawn} {containers : Table ℕ Container}

/-- Changing one container, for the same session. -/
theorem Once.setContainer (once : Once owner spawns containers) {number : ℕ} {held : Container}
    (found : containers.lookup number = some held) (next : Container)
    (session : next.sessionId = held.sessionId) :
    Once owner spawns (containers.insert number next) := by
  refine ⟨once.holding, once.slots, ?_, ?_⟩
  · intro call spawn running poolId pending launched
    apply once.waiting call spawn running poolId pending
    rcases launched.of_insert with this | earlier
    · exact ⟨number, held, found, session.symm.trans this⟩
    · exact earlier
  · intro one other first second foundFirst foundSecond same
    rcases Table.lookup_insert_cases foundFirst with ⟨rfl, rfl⟩ | ⟨_, firstBefore⟩
    · rcases Table.lookup_insert_cases foundSecond with ⟨rfl, rfl⟩ | ⟨_, secondBefore⟩
      · rfl
      · exact once.single _ _ _ _ found secondBefore (session.symm.trans same)
    · rcases Table.lookup_insert_cases foundSecond with ⟨rfl, rfl⟩ | ⟨_, secondBefore⟩
      · exact once.single _ _ _ _ firstBefore found (same.trans session)
      · exact once.single _ _ _ _ firstBefore secondBefore same

theorem Once.halt {state : State} (once : Once state.pool.owner state.spawns state.containers)
    (container : ℕ) :
    Once (state.halt container).pool.owner (state.halt container).spawns
      (state.halt container).containers := by
  unfold State.halt
  split
  · exact once
  · rename_i held found
    exact once.setContainer found { held with running := false } rfl

/-- The first instance of a session. -/
theorem Once.launch (once : Once owner spawns containers) {sessionId : String}
    (first : ¬ containers.Any fun _ container => container.sessionId = sessionId)
    (none_waiting : ∀ call spawn, spawns.lookup call = some spawn →
      spawn.intent.sessionId = sessionId → spawn.pc.pending = none)
    (number : ℕ) (container : Container) (session : container.sessionId = sessionId) :
    Once owner spawns (containers.insert number container) := by
  refine ⟨once.holding, once.slots, ?_, ?_⟩
  · intro call spawn running poolId pending launched
    rcases launched.of_insert with this | earlier
    · have idle := none_waiting call spawn running (this.symm.trans session)
      cases idle.symm.trans pending
    · exact once.waiting call spawn running poolId pending earlier
  · intro one other left right foundLeft foundRight same
    rcases Table.lookup_insert_cases foundLeft with ⟨rfl, rfl⟩ | ⟨_, leftBefore⟩
    · rcases Table.lookup_insert_cases foundRight with ⟨rfl, rfl⟩ | ⟨_, rightBefore⟩
      · rfl
      · exact absurd ⟨other, right, rightBefore, same.symm.trans session⟩ first
    · rcases Table.lookup_insert_cases foundRight with ⟨rfl, rfl⟩ | ⟨_, rightBefore⟩
      · exact absurd ⟨one, left, leftBefore, same.trans session⟩ first
      · exact once.single one other left right leftBefore rightBefore same

/-- A request of a callback, before an eviction or a launch takes effect. -/
theorem Once.callback {pool : PoolTable} {sessions : SessionTable} {call : ℕ}
    {intent : SpawnIntent} {pc : SpawnPc} {input : SpawnInput} {outcome : SpawnOutcome}
    (once : Once pool.owner spawns containers)
    (running : spawns.lookup call = some ⟨intent, pc⟩)
    (kept : ∀ poolId ∈ pc.trying?, pool.owner poolId = none → input.Arrives →
      (∀ row, pool.owner row ≠ some intent.sessionId) ∧
        ¬ containers.Any fun _ container => container.sessionId = intent.sessionId)
    (effect : SpawnEffect call intent pool sessions pc input outcome) :
    Once outcome.pool.owner (spawns.insert call ⟨intent, outcome.pc⟩) containers := by
  have holding := once.holding.step running effect
  have before := once.waiting call _ running
  cases effect with
  | quiet _ rows _ _ _ pending =>
      refine ⟨holding, rows ▸ once.slots, once.waiting.insert ?_, once.single⟩
      intro poolId waits
      rcases pending with same | idle
      · exact before poolId (same.symm.trans waits)
      · cases idle.symm.trans waits
  | claims poolId _ free owners _ _ _ trying arrives _ =>
      obtain ⟨unclaimed, unlaunched⟩ := kept poolId trying free arrives
      refine ⟨holding, ?_, once.waiting.insert fun _ _ => unlaunched, once.single⟩
      rw [owners]
      exact once.slots.claim poolId unclaimed
  | releases poolId _ _ owners _ _ _ _ _ idle =>
      refine ⟨holding, ?_, once.waiting.insert ?_, once.single⟩
      · rw [owners]
        exact once.slots.release poolId
      · intro row waits
        cases (SpawnPc.pending_eq_none idle).symm.trans waits
  | updatesRow result _ at_pc _ rows _ _ _ _ =>
      refine ⟨holding, rows ▸ once.slots, once.waiting.insert ?_, once.single⟩
      intro row _
      subst at_pc
      exact before result.poolId rfl
  | launches _ _ _ rows _ _ _ idle =>
      refine ⟨holding, rows ▸ once.slots, once.waiting.insert ?_, once.single⟩
      intro row waits
      cases idle.symm.trans waits

/-- While a callback is about to launch, no other callback of its session is
still to launch. -/
theorem Once.only_waiting (once : Once owner spawns containers) {call : ℕ} {intent : SpawnIntent}
    {pc next : SpawnPc} {poolId : ℤ} (running : spawns.lookup call = some ⟨intent, pc⟩)
    (held : pc.held = some poolId) (idle : next.pending = none) {other : ℕ} {spawn : Spawn}
    (found : (spawns.insert call ⟨intent, next⟩).lookup other = some spawn)
    (session : spawn.intent.sessionId = intent.sessionId) : spawn.pc.pending = none := by
  rcases Table.lookup_insert_cases found with ⟨rfl, rfl⟩ | ⟨different, before⟩
  · exact idle
  · cases waits : spawn.pc.pending with
    | none => rfl
    | some row =>
        -- Both callbacks hold a row of the session, so they hold the same one.
        have theirs := SpawnPc.held_of_pending waits
        have owned := once.holding.held other spawn before row theirs
        have mine := once.holding.held call _ running poolId held
        rw [session] at owned
        have same := once.slots row poolId _ owned mine
        subst same
        exact absurd (once.holding.alone other call _ _ row before running theirs held) different

/-! ## The system -/

theorem initial_once (deployment : Deployment) :
    Once (State.initial deployment).pool.owner (State.initial deployment).spawns
      (State.initial deployment).containers := by
  refine ⟨Holding.empty, ?_, Table.All.empty, by rintro _ _ _ _ ⟨⟩⟩
  intro one _ _ owned
  cases (deployment.pool.unclaimed one).symm.trans owned

/-- Every step keeps one row and one instance for each session. -/
theorem step_once {deployment : Deployment} {before after : State} {action : Action}
    (once : Once before.pool.owner before.spawns before.containers)
    (kept : ClaimsFirst before action) (taken : step deployment before action = some after) :
    Once after.pool.owner after.spawns after.containers := by
  cases step_effect taken with
  | connect | disconnect | route | dropsFrame | sendsFrame | settle | forget => exact once
  | deliver call intent announced =>
      obtain ⟨held, _⟩ := spawnStart_idle deployment.maxConcurrentSessions
      refine ⟨once.holding.insert_idle call intent held, once.slots, once.waiting.insert ?_,
        once.single⟩
      intro poolId waits
      cases (SpawnPc.pending_eq_none held).symm.trans waits
  | spawn call input container startedAt running moved applied =>
      have effect := spawnStep_effect moved
      have onceAfter := once.callback running (fun poolId trying free arrives =>
        have ⟨slotless, unlaunched⟩ := kept _ running poolId trying free arrives
        ⟨fun _ owned => slotless (State.holdsSlot_of_owner owned), unlaunched⟩) effect
      cases applied with
      | evicts victim _ => exact onceAfter.halt victim
      | quiet => exact onceAfter
      | launches queueUrl launched =>
          obtain ⟨result, rfl, -, -, idle⟩ := effect.launching launched
          have unlaunched := once.waiting call _ running result.poolId rfl
          exact onceAfter.launch unlaunched (fun other spawn found session =>
            once.only_waiting running rfl idle found session) container _ rfl
  | transcribe container input held next found _ _ _ =>
      exact once.setContainer found
        { held with state := next, received := held.received ++ input.batch } rfl
  | exit container => exact once.halt container

/-- No two rows are claimed by one session, and no two instances have been
launched for one session. -/
def SpawnedOnce (state : State) : Prop :=
  OneSlotEach state.pool.owner ∧
    ∀ one other first second, state.containers.lookup one = some first →
      state.containers.lookup other = some second → first.sessionId = second.sessionId →
      one = other

/-- **One spawn for each session.** However often spawn messages are delivered,
every session is spawned at most once in every state reached by a run in which
a callback claims a free row only for a session without a row and without an
instance. -/
theorem spawned_once {deployment : Deployment} {actions : List Action} {final : State}
    (kept : Meets (step deployment) (fun _ state action => ClaimsFirst state action) []
      (State.initial deployment) actions)
    (run : execute (step deployment) (State.initial deployment) actions = some final) :
    SpawnedOnce final := by
  have once : Once final.pool.owner final.spawns final.containers := by
    refine @execute_invariant _ _ _ _ _
      (fun state => Once state.pool.owner state.spawns state.containers)
      (initial_once deployment) ?_ _ _ kept run
    exact fun _ _ _ _ holds condition taken => step_once holds condition taken
  exact ⟨once.slots, once.single⟩

/-! ## Runs with one session -/

/-- The message is delivered again while the launch is refused, and then claims anew. -/
def redeliveredAfterRefusal : List Action :=
  claimActions 1 "a" 0 ++
    [.spawn 1 (.runInstance .refused) 0 0, .spawn 1 (.release .none) 0 0,
      .deliver 2 ⟨"a", "user", "tenant"⟩] ++ claimActions.spawnActions 2 1 ++
    [.spawn 2 (.runInstance .launched) 0 0, .settle 2]

/-- The theorem on that run. -/
theorem spawned_once_afterRefusal :
    ∃ final, execute (step sampleDeployment) (State.initial sampleDeployment)
        redeliveredAfterRefusal = some final ∧
      final.pool.owner 1 = some "a" ∧ ∀ row, final.pool.owner row = some "a" → row = 1 := by
  have reached : (execute (step sampleDeployment) (State.initial sampleDeployment)
      redeliveredAfterRefusal).bind (fun state => state.pool.owner 1) = some "a" := by
    decide +kernel
  obtain ⟨final, run, owned⟩ := Option.bind_eq_some_iff.mp reached
  have once := spawned_once (by decide +kernel) run
  exact ⟨final, run, owned, fun row also => once.1 row 1 "a" also owned⟩

/-- The callback ends well, its message is not deleted and is delivered again. -/
def redeliveredAfterLaunch : List Action :=
  claimActions 1 "a" 0 ++
    [.spawn 1 (.runInstance .launched) 0 0, .deliver 2 ⟨"a", "user", "tenant"⟩] ++
    claimActions.spawnActions 2 1 ++ [.spawn 2 (.runInstance .launched) 1 0]

/-- One session claims both rows of the pool. -/
theorem redelivery_spawns_twice :
    ¬ ∀ (deployment : Deployment) (actions : List Action) (final : State),
      execute (step deployment) (State.initial deployment) actions = some final →
      SpawnedOnce final := by
  intro always
  have reached : (execute (step sampleDeployment) (State.initial sampleDeployment)
      redeliveredAfterLaunch).map (fun state => (state.pool.owner 0, state.pool.owner 1)) =
        some (some "a", some "a") := by
    decide +kernel
  obtain ⟨final, run, owners⟩ := Option.map_eq_some_iff.mp reached
  simp only [Prod.mk.injEq] at owners
  have once := always sampleDeployment redeliveredAfterLaunch final run
  have same := once.1 0 1 "a" owners.1 owners.2
  exact absurd same (by decide)

end Panakoes.Streaming
