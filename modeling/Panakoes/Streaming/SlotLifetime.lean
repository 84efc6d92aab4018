import Panakoes.Streaming.SpawnDelivery

/-! # How long a frame queue stays claimed

A callback gives its row back when the row update or the launch fails; nothing
gives a row back when the session disconnects, when its container has drained
and exited, when its instance is interrupted or evicted. The pool therefore
keeps up with the sessions only as long as no session ends while it holds a row
and no row is claimed for a session that has ended or holds one already.
-/

namespace Panakoes.Streaming

open Transition ConditionalWrite GpuSpawner TranscriberStream

namespace State

/-- The rows that are claimed. -/
def claimedRows (state : State) : List ℤ :=
  state.pool.keys.filter fun poolId => (state.pool.owner poolId).isSome

/-- The sessions that have connected and not ended. -/
def liveSessions (state : State) : List String :=
  state.sessions.keys.filter fun sessionId => sessionId ∉ state.ended

/-- The container's session, if there is one, holds no row. -/
def ExitsWithoutSlot (state : State) (container : ℕ) : Prop :=
  ∀ held ∈ state.containers.lookup container, ¬ state.HoldsSlot held.sessionId

instance (state : State) (container : ℕ) : Decidable (state.ExitsWithoutSlot container) :=
  inferInstanceAs (Decidable (∀ held ∈ state.containers.lookup container, _))

end State

/-- The instance that the next request terminates, when the request succeeds. -/
def evicting? : SpawnPc → SpawnInput → Option ℕ
  | .terminating (victim :: _), .terminated true => some victim
  | _, _ => none

/-- No session ends while it holds a row, and a free row is claimed only for a
session that has not ended and holds none. -/
def EndsWithoutSlot (state : State) : Action → Prop
  | .disconnect _ sessionId _ _ => ¬ state.HoldsSlot sessionId
  | .exit container => state.ExitsWithoutSlot container
  | .spawn call input _ _ =>
      ∀ spawn ∈ state.spawns.lookup call,
        (∀ victim ∈ evicting? spawn.pc input, state.ExitsWithoutSlot victim) ∧
          ∀ poolId ∈ spawn.pc.trying?, state.pool.owner poolId = none → input.Arrives →
            ¬ state.HoldsSlot spawn.intent.sessionId ∧ spawn.intent.sessionId ∉ state.ended
  | _ => True

instance (state : State) (action : Action) : Decidable (EndsWithoutSlot state action) :=
  match action with
  | .disconnect _ sessionId _ _ => inferInstanceAs (Decidable (¬ state.HoldsSlot sessionId))
  | .exit container => inferInstanceAs (Decidable (state.ExitsWithoutSlot container))
  | .spawn call input _ _ => inferInstanceAs (Decidable (∀ spawn ∈ state.spawns.lookup call,
      (∀ victim ∈ evicting? spawn.pc input, _) ∧ ∀ poolId ∈ spawn.pc.trying?, _ → _ → _ ∧ _))
  | .connect .. | .route .. | .sendFrame .. | .deliver .. | .settle _ | .transcribe ..
  | .forget .. => .isTrue trivial

/-! ## The invariant -/

/-- Every claimed row belongs to a live session of its own. -/
structure Leased (state : State) : Prop where
  live : ∀ poolId sessionId, state.pool.owner poolId = some sessionId →
    sessionId ∈ state.sessions ∧ sessionId ∉ state.ended
  slots : OneSlotEach state.pool.owner
  announced : ∀ intent ∈ state.intents, intent.sessionId ∈ state.sessions
  spawning : state.spawns.All fun _ spawn => spawn.intent.sessionId ∈ state.sessions

variable {before : State}

/-- A step that changes none of the rows and ends no session with a row. -/
theorem Leased.transfer (leased : Leased before) {after : State} (rows : after.pool = before.pool)
    (grows : ∀ sessionId ∈ before.sessions, sessionId ∈ after.sessions)
    (ends : ∀ sessionId ∈ after.ended, sessionId ∈ before.ended ∨ ¬ before.HoldsSlot sessionId)
    (announced : ∀ intent ∈ after.intents, intent.sessionId ∈ after.sessions)
    (spawning : after.spawns.All fun _ spawn => spawn.intent.sessionId ∈ after.sessions) :
    Leased after := by
  refine ⟨?_, rows ▸ leased.slots, announced, spawning⟩
  intro poolId sessionId owned
  rw [rows] at owned
  obtain ⟨connected, unended⟩ := leased.live poolId sessionId owned
  refine ⟨grows sessionId connected, fun ended => ?_⟩
  rcases ends sessionId ended with earlier | slotless
  · exact unended earlier
  · exact slotless (State.holdsSlot_of_owner owned)

theorem Leased.halt (leased : Leased before) {container : ℕ}
    (slotless : before.ExitsWithoutSlot container) : Leased (before.halt container) := by
  unfold State.halt
  split
  · exact leased
  · rename_i held found
    refine leased.transfer rfl (fun _ => id) ?_ leased.announced leased.spawning
    intro sessionId ended
    rcases List.mem_cons.mp ended with rfl | earlier
    · exact Or.inr (slotless held found)
    · exact Or.inl earlier

theorem Leased.connect (leased : Leased before) (sessionId : String) (request : ConnectRequest)
    (fault : Fault) (announced : Bool) :
    Leased (connectStep before sessionId request fault announced) := by
  have grows : ∀ other ∈ before.sessions,
      other ∈ (connectStep before sessionId request fault announced).sessions :=
    fun other member =>
      mem_send_insert member fault sessionId (some (connectItem sessionId request))
  refine leased.transfer rfl grows (fun _ => Or.inl) ?_
    (leased.spawning.mono fun _ _ => grows _)
  intro intent member
  change intent ∈ (if (send fault before.sessions
    (some (before.sessions.insert sessionId (connectItem sessionId request)))).reply = .ok ∧
      announced then _ else _) at member
  split at member
  · rename_i accepted
    rcases List.mem_append.mp member with earlier | new
    · exact grows _ (leased.announced intent earlier)
    · rw [List.mem_singleton] at new
      subst new
      have applied := applied_of_ok accepted.1
      rcases send_cases fault before.sessions
        (some (before.sessions.insert sessionId (connectItem sessionId request))) with
        ⟨_, updated⟩ | ⟨unapplied, _⟩
      · change sessionId ∈ (send fault before.sessions _).table
        rw [← Option.some.inj updated]
        exact (AList.mem_insert _).mpr (Or.inl rfl)
      · cases applied.symm.trans unapplied
  · exact grows _ (leased.announced intent member)

theorem Leased.disconnect (leased : Leased before) (router : ℕ) {sessionId : String} (now : String)
    (fault : Fault) (slotless : ¬ before.HoldsSlot sessionId) :
    Leased (disconnectStep before router sessionId now fault) := by
  have grows : ∀ other ∈ before.sessions,
      other ∈ (disconnectStep before router sessionId now fault).sessions :=
    fun other member => mem_send_insert member fault sessionId
      (disconnectUpdate now (before.sessions.lookup sessionId))
  refine leased.transfer rfl grows ?_
    (fun intent member => grows _ (leased.announced intent member))
    (leased.spawning.mono fun _ _ => grows _)
  intro other ended
  rcases List.mem_cons.mp ended with rfl | earlier
  · exact Or.inr slotless
  · exact Or.inl earlier

/-- A request of a callback, before an eviction or a launch takes effect. -/
theorem Leased.callback (leased : Leased before) {call : ℕ} {intent : SpawnIntent} {pc : SpawnPc}
    {input : SpawnInput} {outcome : SpawnOutcome}
    (running : before.spawns.lookup call = some ⟨intent, pc⟩)
    (kept : ∀ poolId ∈ pc.trying?, before.pool.owner poolId = none → input.Arrives →
      ¬ before.HoldsSlot intent.sessionId ∧ intent.sessionId ∉ before.ended)
    (effect : SpawnEffect call intent before.pool before.sessions pc input outcome) :
    Leased
      { before with
        pool := outcome.pool
        sessions := outcome.sessions
        spawns := before.spawns.insert call ⟨intent, outcome.pc⟩ } := by
  have connected := leased.spawning call _ running
  have spawning : Table.All (before.spawns.insert call ⟨intent, outcome.pc⟩) fun _ spawn =>
      spawn.intent.sessionId ∈ before.sessions := Table.All.insert leased.spawning connected
  cases effect with
  | quiet _ rows same _ _ _ =>
      rw [rows, same]
      exact leased.transfer rfl (fun _ => id) (fun _ => Or.inl) leased.announced spawning
  | claims poolId _ free owners _ same _ trying arrives _ =>
      obtain ⟨slotless, unended⟩ := kept poolId trying free arrives
      rw [same]
      refine ⟨?_, ?_, leased.announced, spawning⟩
      · intro row sessionId owned
        rw [owners] at owned
        by_cases new : row = poolId
        · rw [new, Function.update_self] at owned
          cases owned
          exact ⟨connected, unended⟩
        · rw [Function.update_of_ne new] at owned
          exact leased.live row sessionId owned
      · rw [owners]
        exact leased.slots.claim poolId fun _ owned =>
          slotless (State.holdsSlot_of_owner owned)
  | releases poolId _ _ owners _ same _ _ _ _ =>
      rw [same]
      refine ⟨?_, ?_, leased.announced, spawning⟩
      · intro row sessionId owned
        rw [owners] at owned
        exact leased.live row sessionId (owner_of_release owned)
      · rw [owners]
        exact leased.slots.release poolId
  | updatesRow _ row _ _ rows _ written _ _ =>
      have grows : ∀ other ∈ before.sessions,
          other ∈ before.sessions.insert intent.sessionId row :=
        fun other member => (AList.mem_insert _).mpr (Or.inr member)
      rw [rows, written]
      exact leased.transfer rfl grows (fun _ => Or.inl)
        (fun other member => grows _ (leased.announced other member))
        (spawning.mono fun _ _ => grows _)
  | launches _ _ _ rows same _ _ _ =>
      rw [rows, same]
      exact leased.transfer rfl (fun _ => id) (fun _ => Or.inl) leased.announced spawning

/-! ## The system -/

theorem initial_leased (deployment : Deployment) : Leased (State.initial deployment) := by
  have free : ∀ poolId sessionId,
      (State.initial deployment).pool.owner poolId ≠ some sessionId := by
    intro poolId sessionId owned
    cases (deployment.pool.unclaimed poolId).symm.trans owned
  exact ⟨fun poolId sessionId owned => absurd owned (free poolId sessionId),
    fun one _ sessionId owned => absurd owned (free one sessionId),
    fun _ member => absurd member List.not_mem_nil, Table.All.empty⟩

theorem evicting_of_spawnStep {cap : ℤ} {call : ℕ} {intent : SpawnIntent} {pool : PoolTable}
    {sessions : SessionTable} {pc : SpawnPc} {input : SpawnInput} {outcome : SpawnOutcome}
    {victim : ℕ} (taken : spawnStep cap call intent pool sessions pc input = some outcome)
    (evicted : outcome.evicted = some victim) :
    evicting? pc input = some victim ∧ outcome.pool = pool := by
  unfold spawnStep at taken
  split at taken
  · cases taken
    cases evicted
  · cases taken
    cases evicted
  · rename_i gone
    cases taken
    cases gone with
    | true =>
        cases evicted
        exact ⟨rfl, rfl⟩
    | false => cases evicted
  · obtain ⟨claim, _, rfl⟩ := Option.map_eq_some_iff.mp taken
    cases evicted
  · cases taken
    cases evicted
  · cases taken
    cases evicted
  · cases taken
    cases evicted
  · cases taken
    cases evicted
  · cases taken
    cases evicted
  · cases taken

/-- Every step keeps every claimed row with a live session under the condition. -/
theorem step_leased {deployment : Deployment} {after : State} {action : Action}
    (leased : Leased before) (kept : EndsWithoutSlot before action)
    (taken : step deployment before action = some after) : Leased after := by
  cases step_effect taken with
  | connect sessionId request fault announced =>
      exact leased.connect sessionId request fault announced
  | disconnect router sessionId now fault => exact leased.disconnect router now fault kept
  | route | dropsFrame | sendsFrame | transcribe | forget =>
      exact leased.transfer rfl (fun _ => id) (fun _ => Or.inl) leased.announced leased.spawning
  | deliver call intent announced =>
      exact leased.transfer rfl (fun _ => id) (fun _ => Or.inl) leased.announced
        (leased.spawning.insert (leased.announced intent announced))
  | spawn call input container startedAt running moved applied =>
      obtain ⟨evicts, claims⟩ := kept _ running
      have leasedAfter := leased.callback running claims (spawnStep_effect moved)
      cases applied with
      | evicts victim evicted =>
          obtain ⟨evicting, rows⟩ := evicting_of_spawnStep moved evicted
          apply leasedAfter.halt
          simpa only [State.ExitsWithoutSlot, State.HoldsSlot, rows] using evicts victim evicting
      | quiet => exact leasedAfter
      | launches queueUrl launched =>
          exact leasedAfter.transfer rfl (fun _ => id) (fun _ => Or.inl) leasedAfter.announced
            leasedAfter.spawning
  | settle call intent ended =>
      exact leased.transfer rfl (fun _ => id) (fun _ => Or.inl)
        (fun other member => leased.announced other (List.mem_of_mem_erase member))
        leased.spawning
  | exit container => exact leased.halt kept

/-- The claimed rows go to different live sessions. -/
theorem Leased.claimed_le_live (leased : Leased before) :
    before.claimedRows.length ≤ before.liveSessions.length := by
  have owners : ∀ poolId ∈ before.claimedRows, ∃ sessionId,
      before.pool.owner poolId = some sessionId := by
    intro poolId member
    exact Option.isSome_iff_exists.mp (by simpa using (List.mem_filter.mp member).2)
  let ownerOf : ℤ → String := fun poolId => (before.pool.owner poolId).getD ""
  have distinct : (before.claimedRows.map ownerOf).Nodup := by
    refine (before.pool.keys_nodup.filter _).map_on ?_
    intro one first other second same
    obtain ⟨left, ownsLeft⟩ := owners one first
    obtain ⟨right, ownsRight⟩ := owners other second
    simp only [ownerOf, ownsLeft, ownsRight, Option.getD_some] at same
    subst same
    exact leased.slots one other left ownsLeft ownsRight
  have subset : before.claimedRows.map ownerOf ⊆ before.liveSessions := by
    intro sessionId member
    obtain ⟨poolId, claimed, rfl⟩ := List.mem_map.mp member
    obtain ⟨owner, owns⟩ := owners poolId claimed
    obtain ⟨connected, unended⟩ := leased.live poolId owner owns
    simp only [ownerOf, owns, Option.getD_some]
    exact List.mem_filter.mpr ⟨connected, by simpa using unended⟩
  have counted := (List.subperm_of_subset distinct subset).length_le
  rwa [List.length_map] at counted

/-- No row is claimed by a session that has ended, there are no more claimed
rows than live sessions, and while there are fewer live sessions than rows some
row is free. -/
def SlotsAvailable (state : State) : Prop :=
  (∀ poolId sessionId, state.pool.owner poolId = some sessionId → sessionId ∉ state.ended) ∧
    state.claimedRows.length ≤ state.liveSessions.length ∧
    (state.liveSessions.length < state.pool.keys.length →
      ∃ poolId ∈ state.pool.keys, state.pool.owner poolId = none)

/-- The launch for `a` is refused and `a` disconnects; `b` gets its row. -/
def refusedThenServedRun : List Action :=
  claimActions 1 "a" 0 ++ [.spawn 1 (.runInstance .refused) 0 0, .spawn 1 (.release .none) 0 0,
    .disconnect 0 "a" "t" .none] ++ claimActions 2 "b" 0 ++
    [.spawn 2 (.runInstance .launched) 0 0, .settle 2]

/-- A session streams, disconnects, and its container drains and exits. -/
def finishedRun : List Action :=
  claimActions 1 "a" 0 ++
    [.spawn 1 (.runInstance .launched) 0 0, .settle 1, .transcribe 0 (.next 0),
      .disconnect 0 "a" "t" .none, .transcribe 0 .stop, .transcribe 0 (.receive [] 0), .exit 0]

end Panakoes.Streaming
