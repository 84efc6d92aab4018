import Mathlib.Algebra.Order.Ring.Rat
import Mathlib.Data.List.Sort
import Panakoes.GpuSpawner.PoolClaim
import Panakoes.Streaming.SessionRow

/-! # The spawn callback

`make_spawn_callback` of the gpu-spawner, for one spawn intent: evict instances
at the concurrency cap, claim a frame queue, write it into the session row and
launch an instance; a failed update or launch gives the queue back. Like a
claim, the callback is a machine that stops before each call it makes. Status
posts change nothing and never raise, so they are left out.
-/

namespace Panakoes.GpuSpawner

open ConditionalWrite Ownership Streaming

/-- The sessions table, by `session_id`. -/
abbrev SessionTable := Table String SessionRow

/-- A decoded spawn message. -/
structure SpawnIntent where
  sessionId : String
  userId : String
  tenantId : String
  deriving DecidableEq

/-- An entry of `list_running_instances`. -/
structure RunningInstance where
  id : ℕ
  sessionId : Option String
  launchedAt : Option ℚ
  deriving DecidableEq

/-- The sort key: instances without a launch time come first. -/
def RunningInstance.Before (one other : RunningInstance) : Prop :=
  match one.launchedAt, other.launchedAt with
  | none, _ => True
  | some _, none => False
  | some first, some second => first ≤ second

instance : DecidableRel RunningInstance.Before
  | ⟨_, _, none⟩, _ => .isTrue trivial
  | ⟨_, _, some _⟩, ⟨_, _, none⟩ => .isFalse id
  | ⟨_, _, some first⟩, ⟨_, _, some second⟩ => inferInstanceAs (Decidable (first ≤ second))

/-- The oldest instances, enough of them to leave room for one more. -/
def evictionVictims (maxConcurrentSessions : ℤ) (running : List RunningInstance) : List ℕ :=
  if (running.length : ℤ) < maxConcurrentSessions then []
  else
    ((running.insertionSort RunningInstance.Before).take
      (running.length - maxConcurrentSessions + 1).toNat).map RunningInstance.id

/-- The call that the callback is about to make. -/
inductive SpawnPc where
  | listing
  | terminating (victims : List ℕ)
  | claiming (pc : ClaimPc)
  | updatingRow (result : PoolClaimResult)
  | launching (result : PoolClaimResult)
  | releasing (result : PoolClaimResult)
  | done
  | raised
  deriving DecidableEq

/-- How `run_instance` ends. It may raise although an instance was launched:
the answer got lost, or it lists no instance or no instance id. -/
inductive Launch where
  | refused
  | launched
  | launchedUnseen
  deriving DecidableEq

/-- How the call is answered. -/
inductive SpawnInput where
  | listed (running : Option (List RunningInstance))
  | terminated (gone : Bool)
  | claim (input : ClaimInput)
  | updateRow (fault : Fault)
  | runInstance (launch : Launch)
  | release (fault : Fault)
  deriving DecidableEq

/-- The effect of one answered call. `launched` is the queue URL handed to a new
instance, and `evicted` an instance that was terminated. -/
structure SpawnOutcome where
  pool : PoolTable
  sessions : SessionTable
  pc : SpawnPc
  events : List PoolEvent
  launched : Option String
  evicted : Option ℕ

/-- Where the callback starts. -/
def spawnStart (maxConcurrentSessions : ℤ) : SpawnPc :=
  if maxConcurrentSessions ≤ 0 then .claiming .scanning else .listing

/-- The loop over the victims. -/
def nextVictim : List ℕ → SpawnPc
  | [] => .claiming .scanning
  | victims => .terminating victims

/-- After a call of the claim: go on claiming, go on to the row update, or let
the exception through. -/
def afterClaimCall : ClaimPc → SpawnPc
  | .returned result => .updatingRow result
  | .raised _ => .raised
  | pc => .claiming pc

/-- The update of the session row; another reply than success is an exception. -/
def updateSession (sessions : SessionTable) (sessionId : String) (result : PoolClaimResult)
    (fault : Fault) : Outcome SessionTable :=
  send fault sessions ((spawnUpdate result.queueUrl result.poolId (sessions.lookup sessionId)).map
    fun row => sessions.insert sessionId row)

/-- Run the callback from one call to the next. -/
def spawnStep (maxConcurrentSessions : ℤ) (call : ℕ) (intent : SpawnIntent) (pool : PoolTable)
    (sessions : SessionTable) (pc : SpawnPc) (input : SpawnInput) : Option SpawnOutcome :=
  match pc, input with
  | .listing, .listed none => some ⟨pool, sessions, .claiming .scanning, [], none, none⟩
  | .listing, .listed (some running) =>
      some ⟨pool, sessions, nextVictim (evictionVictims maxConcurrentSessions running), [], none,
        none⟩
  | .terminating (victim :: rest), .terminated gone =>
      some ⟨pool, sessions, nextVictim rest, [], none, if gone then some victim else none⟩
  | .claiming pc, .claim input =>
      (claimStep call intent.sessionId pool pc input).map fun outcome =>
        ⟨outcome.table, sessions, afterClaimCall outcome.pc, outcome.events, none, none⟩
  | .updatingRow result, .updateRow fault =>
      let written := updateSession sessions intent.sessionId result fault
      let next := if written.reply = .ok then .launching result else .releasing result
      some ⟨pool, written.table, next, [], none, none⟩
  | .launching result, .runInstance .refused =>
      some ⟨pool, sessions, .releasing result, [], none, none⟩
  | .launching result, .runInstance .launched =>
      some ⟨pool, sessions, .done, [], some result.queueUrl, none⟩
  | .launching result, .runInstance .launchedUnseen =>
      some ⟨pool, sessions, .releasing result, [], some result.queueUrl, none⟩
  | .releasing result, .release fault =>
      let written := release pool result.poolId intent.sessionId fault
      some ⟨written.table, sessions, .raised,
        eventsOf written.applied (.released result.poolId intent.sessionId), none, none⟩
  | _, _ => none

/-- The row that the callback has claimed and not given back. -/
def SpawnPc.held : SpawnPc → Option ℤ
  | .claiming pc => pc.held
  | .updatingRow result | .launching result | .releasing result => some result.poolId
  | _ => none

/-- The row that the callback may still launch an instance for. -/
def SpawnPc.pending : SpawnPc → Option ℤ
  | .releasing _ => none
  | pc => pc.held

/-- The row that the next request claims, if it is free. -/
def SpawnPc.trying? : SpawnPc → Option ℤ
  | .claiming pc => pc.trying?
  | _ => none

/-- The row that the next request gives back. -/
def SpawnPc.releasing? : SpawnPc → Option ℤ
  | .claiming pc => pc.releasing?
  | .releasing result => some result.poolId
  | _ => none

/-- The answer is not that of a request that got lost. -/
def SpawnInput.Arrives : SpawnInput → Prop
  | .claim input => input.Arrives
  | .release fault => fault ≠ .lost
  | _ => True

instance : DecidablePred SpawnInput.Arrives
  | .claim input => inferInstanceAs (Decidable input.Arrives)
  | .release _ => inferInstanceAs (Decidable (_ ≠ _))
  | .listed _ | .terminated _ | .updateRow _ | .runInstance _ => .isTrue trivial

/-- The claim that the callback has made. -/
def SpawnPc.claimed : SpawnPc → Option PoolClaimResult
  | .claiming pc => pc.result
  | .updatingRow result | .launching result | .releasing result => some result
  | _ => none

theorem SpawnPc.held_of_pending {pc : SpawnPc} {poolId : ℤ} (pending : pc.pending = some poolId) :
    pc.held = some poolId := by
  cases pc with
  | releasing _ => cases pending
  | _ => exact pending

theorem SpawnPc.held_of_claimed {pc : SpawnPc} {result : PoolClaimResult}
    (claimed : pc.claimed = some result) : pc.held = some result.poolId := by
  cases pc with
  | claiming pc =>
      cases pc with
      | draining _ | returned _ =>
          cases claimed
          rfl
      | _ => cases claimed
  | updatingRow _ | launching _ | releasing _ =>
      cases claimed
      rfl
  | _ => cases claimed

theorem SpawnPc.pending_eq_none {pc : SpawnPc} (unheld : pc.held = none) : pc.pending = none := by
  cases pc with
  | releasing _ => rfl
  | _ => exact unheld

theorem nextVictim_idle (victims : List ℕ) :
    (nextVictim victims).held = none ∧ (nextVictim victims).claimed = none := by
  cases victims <;> exact ⟨rfl, rfl⟩

theorem spawnStart_idle (cap : ℤ) :
    (spawnStart cap).held = none ∧ (spawnStart cap).claimed = none := by
  unfold spawnStart
  split <;> exact ⟨rfl, rfl⟩

theorem afterClaimCall_held (pc : ClaimPc) :
    ((afterClaimCall pc).held = pc.held ∧ (afterClaimCall pc).pending = pc.held ∧
        (afterClaimCall pc).claimed = pc.result) ∨
      (afterClaimCall pc).held = none ∧ (afterClaimCall pc).pending = none ∧
        (afterClaimCall pc).claimed = none := by
  cases pc with
  | raised _ => exact Or.inr ⟨rfl, rfl, rfl⟩
  | _ => exact Or.inl ⟨rfl, rfl, rfl⟩

/-- All that one answered call can do. -/
inductive SpawnEffect (call : ℕ) (intent : SpawnIntent) (pool : PoolTable)
    (sessions : SessionTable) (pc : SpawnPc) (input : SpawnInput) (outcome : SpawnOutcome) :
    Prop where
  /-- Neither table changes and nothing is launched. -/
  | quiet (events : outcome.events = []) (rows : outcome.pool = pool)
      (same : outcome.sessions = sessions) (launched : outcome.launched = none)
      (held : outcome.pc.held = pc.held ∨ outcome.pc.held = none)
      (pending : outcome.pc.pending = pc.pending ∨ outcome.pc.pending = none)
  /-- A free row is claimed. -/
  | claims (poolId : ℤ) (events : outcome.events = [.claimed call poolId intent.sessionId])
      (free : pool.owner poolId = none)
      (owners : outcome.pool.owner = Function.update pool.owner poolId (some intent.sessionId))
      (urls : outcome.pool.queueUrl? = pool.queueUrl?) (same : outcome.sessions = sessions)
      (launched : outcome.launched = none) (trying : pc.trying? = some poolId)
      (arrives : input.Arrives) (held : outcome.pc.held = some poolId ∨ outcome.pc.held = none)
  /-- The row that was claimed is given back. -/
  | releases (poolId : ℤ) (events : outcome.events = [.released poolId intent.sessionId])
      (owned : pool.owner poolId = some intent.sessionId)
      (owners : outcome.pool.owner = Function.update pool.owner poolId none)
      (urls : outcome.pool.queueUrl? = pool.queueUrl?) (same : outcome.sessions = sessions)
      (launched : outcome.launched = none) (releasing : pc.releasing? = some poolId)
      (arrives : input.Arrives) (held : outcome.pc.held = none)
  /-- The queue is written into the session row. -/
  | updatesRow (result : PoolClaimResult) (row : SessionRow)
      (at_pc : pc = .updatingRow result) (events : outcome.events = [])
      (rows : outcome.pool = pool)
      (updated : spawnUpdate result.queueUrl result.poolId (sessions.lookup intent.sessionId) =
        some row)
      (written : outcome.sessions = sessions.insert intent.sessionId row)
      (launched : outcome.launched = none) (held : outcome.pc.held = some result.poolId)
  /-- An instance is launched on the queue. -/
  | launches (result : PoolClaimResult) (at_pc : pc = .launching result)
      (events : outcome.events = []) (rows : outcome.pool = pool)
      (same : outcome.sessions = sessions) (launched : outcome.launched = some result.queueUrl)
      (held : outcome.pc.held = some result.poolId ∨ outcome.pc.held = none)
      (pending : outcome.pc.pending = none)

variable {cap : ℤ} {call : ℕ} {intent : SpawnIntent} {pool : PoolTable} {sessions : SessionTable}
  {pc : SpawnPc} {input : SpawnInput} {outcome : SpawnOutcome}

theorem SpawnPc.held_of_releasing {poolId : ℤ} (releasing : pc.releasing? = some poolId) :
    pc.held = some poolId := by
  cases pc with
  | claiming pc => exact ClaimPc.held_of_releasing releasing
  | releasing _ => exact releasing
  | _ => cases releasing

theorem SpawnEffect.of_claim {pc : ClaimPc} {input : ClaimInput} {claim : ClaimOutcome}
    (effect : ClaimEffect call intent.sessionId pool pc input claim) :
    SpawnEffect call intent pool sessions (.claiming pc) (.claim input)
      ⟨claim.table, sessions, afterClaimCall claim.pc, claim.events, none, none⟩ := by
  have moved := afterClaimCall_held claim.pc
  cases effect with
  | quiet events rows held =>
      refine .quiet events rows rfl rfl ?_ ?_
      · rcases moved with ⟨same, _, _⟩ | ⟨lost, _, _⟩
        · exact held.imp same.trans same.trans
        · exact Or.inr lost
      · rcases moved with ⟨_, same, _⟩ | ⟨_, lost, _⟩
        · exact held.imp same.trans same.trans
        · exact Or.inr lost
  | claims poolId events free owners urls trying arrives held =>
      refine .claims poolId events free owners urls rfl rfl trying arrives ?_
      rcases moved with ⟨same, _, _⟩ | ⟨lost, _, _⟩
      · exact held.imp same.trans same.trans
      · exact Or.inr lost
  | releases poolId events owned owners urls releasing arrives held =>
      refine .releases poolId events owned owners urls rfl rfl releasing arrives ?_
      rcases moved with ⟨same, _, _⟩ | ⟨lost, _, _⟩
      · exact same.trans held
      · exact lost

/-- An instance is launched from one place only. -/
theorem SpawnEffect.launching (effect : SpawnEffect call intent pool sessions pc input outcome)
    {queueUrl : String} (launched : outcome.launched = some queueUrl) :
    ∃ result, pc = .launching result ∧ result.queueUrl = queueUrl ∧ outcome.pool = pool ∧
      outcome.pc.pending = none := by
  cases effect with
  | quiet _ _ _ unlaunched _ _ => cases launched.symm.trans unlaunched
  | claims _ _ _ _ _ _ unlaunched _ _ _ => cases launched.symm.trans unlaunched
  | releases _ _ _ _ _ _ unlaunched _ _ _ => cases launched.symm.trans unlaunched
  | updatesRow _ _ _ _ _ _ _ unlaunched _ => cases launched.symm.trans unlaunched
  | launches result at_pc _ rows _ started _ idle =>
      cases launched.symm.trans started
      exact ⟨result, at_pc, rfl, rows, idle⟩

theorem spawnStep_effect
    (taken : spawnStep cap call intent pool sessions pc input = some outcome) :
    SpawnEffect call intent pool sessions pc input outcome := by
  unfold spawnStep at taken
  split at taken
  · cases taken
    exact .quiet rfl rfl rfl rfl (Or.inr rfl) (Or.inr rfl)
  · cases taken
    obtain ⟨held, _⟩ := nextVictim_idle (evictionVictims cap _)
    exact .quiet rfl rfl rfl rfl (Or.inr held) (Or.inr (SpawnPc.pending_eq_none held))
  · cases taken
    obtain ⟨held, _⟩ := nextVictim_idle _
    exact .quiet rfl rfl rfl rfl (Or.inr held) (Or.inr (SpawnPc.pending_eq_none held))
  · obtain ⟨claim, moved, rfl⟩ := Option.map_eq_some_iff.mp taken
    exact .of_claim (claimStep_effect moved)
  · rename_i result fault
    cases taken
    have held : ∀ reply : Reply, (if reply = .ok then SpawnPc.launching result
        else .releasing result).held = some result.poolId := by
      intro reply
      split <;> rfl
    have pending : ∀ reply : Reply, (if reply = .ok then SpawnPc.launching result
        else .releasing result).pending = some result.poolId ∨ (if reply = .ok then
          SpawnPc.launching result else .releasing result).pending = none := by
      intro reply
      split
      · exact Or.inl rfl
      · exact Or.inr rfl
    rcases send_cases fault sessions _ with ⟨_, updated⟩ | ⟨_, same⟩
    · obtain ⟨row, found, written⟩ := Option.map_eq_some_iff.mp updated
      exact .updatesRow result row rfl rfl rfl found written.symm rfl (held _)
    · exact .quiet rfl rfl same rfl (Or.inl (held _)) (pending _)
  · cases taken
    exact .quiet rfl rfl rfl rfl (Or.inl rfl) (Or.inr rfl)
  · cases taken
    exact .launches _ rfl rfl rfl rfl rfl (Or.inr rfl) rfl
  · cases taken
    exact .launches _ rfl rfl rfl rfl rfl (Or.inl rfl) rfl
  · rename_i result fault
    cases taken
    rcases release_cases with ⟨applied, owned, owners, urls⟩ | ⟨unapplied, same⟩
    · refine .releases result.poolId ?_ owned owners urls rfl rfl rfl
        (arrives_of_applied applied) rfl
      rw [applied, eventsOf, if_pos rfl]
    · refine .quiet ?_ same rfl rfl (Or.inr rfl) (Or.inr rfl)
      rw [unapplied, eventsOf, if_neg Bool.false_ne_true]
  · cases taken

/-- The queue URL of a claim was read from the row that was claimed. -/
theorem claimed_of_spawnStep
    (taken : spawnStep cap call intent pool sessions pc input = some outcome)
    {result : PoolClaimResult} (found : outcome.pc.claimed = some result) :
    pc.claimed = some result ∨ pool.queueUrl? result.poolId = some result.queueUrl := by
  unfold spawnStep at taken
  split at taken
  · cases taken
    cases found
  · cases taken
    rw [(nextVictim_idle _).2] at found
    cases found
  · cases taken
    rw [(nextVictim_idle _).2] at found
    cases found
  · obtain ⟨claim, moved, rfl⟩ := Option.map_eq_some_iff.mp taken
    rcases afterClaimCall_held claim.pc with ⟨_, _, same⟩ | ⟨_, _, lost⟩
    · exact result_of_claimStep moved (same.symm.trans found)
    · cases lost.symm.trans found
  · cases taken
    refine Or.inl (Eq.trans ?_ found)
    dsimp only
    split <;> rfl
  · cases taken
    exact Or.inl found
  · cases taken
    cases found
  · cases taken
    exact Or.inl found
  · cases taken
    cases found
  · cases taken

end Panakoes.GpuSpawner
