import Panakoes.Foundation.Run
import Panakoes.GpuSpawner.PoolClaim

/-! # One owner for every frame queue

Any number of `claim` and `release` calls of any sessions run against one pool
table, their DynamoDB requests interleaved in any order and answered with stale
scans, missed reads and failures. The log of the writes that were applied is an
exclusive ownership log whose owners are the `claimed_by` attributes of the
table, whatever rows the table had at the start.
-/

namespace Panakoes.GpuSpawner.Pool

open Transition ConditionalWrite Ownership

/-- A call of `claim(session_id)` in progress or ended. -/
structure ClaimCall where
  sessionId : String
  pc : ClaimPc
  deriving DecidableEq

/-- The table, the calls by number, and the log of the writes applied. -/
structure State where
  table : PoolTable
  calls : Table ℕ ClaimCall
  log : List PoolEvent

/-- A new call of `claim`, the next request of a call, or a call of `release`. -/
inductive Action where
  | begin (call : ℕ) (sessionId : String)
  | claim (call : ℕ) (input : ClaimInput)
  | release (poolId : ℤ) (sessionId : String) (fault : Fault)

/-- A pool table that no call has touched. -/
def start (table : PoolTable) : State := ⟨table, ∅, []⟩

/-- One step of the calls on the table. -/
def step (state : State) : Action → Option State
  | .begin call sessionId =>
      match state.calls.lookup call with
      | some _ => none
      | none => some { state with calls := state.calls.insert call ⟨sessionId, .scanning⟩ }
  | .claim call input =>
      match state.calls.lookup call with
      | none => none
      | some ⟨sessionId, pc⟩ =>
          (claimStep call sessionId state.table pc input).map fun outcome =>
            { table := outcome.table
              calls := state.calls.insert call ⟨sessionId, outcome.pc⟩
              log := state.log ++ outcome.events }
  | .release poolId sessionId fault =>
      let written := release state.table poolId sessionId fault
      some { state with
        table := written.table
        log := state.log ++ eventsOf written.applied (.released poolId sessionId) }

/-! ## The table refines the ownership log -/

/-- Every call that holds a row has claimed it. -/
def HeldClaimed (calls : Table ℕ ClaimCall) (log : List PoolEvent) : Prop :=
  calls.All fun call claim => ∀ poolId, claim.pc.held = some poolId →
    .claimed call poolId claim.sessionId ∈ log

/-- The log is exclusive, its owners are those of the table, and a call that
holds a row has claimed it. -/
structure Refines (table : PoolTable) (state : State) : Prop where
  exclusive : Exclusive table.owner state.log
  owners : ownersAfter table.owner state.log = state.table.owner
  claimed : HeldClaimed state.calls state.log

/-- Moving one call on, to a row that it has claimed if it holds one. -/
theorem HeldClaimed.insert {calls : Table ℕ ClaimCall} {log events : List PoolEvent}
    (claimed : HeldClaimed calls log) (call : ℕ) (sessionId : String) {pc : ClaimPc}
    (moved : ∀ poolId, pc.held = some poolId → .claimed call poolId sessionId ∈ log ++ events) :
    HeldClaimed (calls.insert call ⟨sessionId, pc⟩) (log ++ events) := by
  have earlier : HeldClaimed calls (log ++ events) :=
    claimed.mono fun _ _ held poolId holds => List.mem_append_left _ (held poolId holds)
  exact Table.All.insert earlier moved

/-- Events that may happen at the owners of the table extend the log. -/
theorem Refines.extend {table after : PoolTable} {state : State} {events : List PoolEvent}
    (refines : Refines table state) (exclusive : Exclusive state.table.owner events)
    (owners : ownersAfter state.table.owner events = after.owner) :
    Exclusive table.owner (state.log ++ events) ∧
      ownersAfter table.owner (state.log ++ events) = after.owner := by
  constructor
  · apply Exclusive.append.mpr
    rw [refines.owners]
    exact ⟨refines.exclusive, exclusive⟩
  · rw [ownersAfter_append, refines.owners, owners]

variable {call : ℕ} {sessionId : String} {table : PoolTable} {pc : ClaimPc} {input : ClaimInput}
  {outcome : ClaimOutcome}

theorem exclusive_of_effect (effect : ClaimEffect call sessionId table pc input outcome) :
    Exclusive table.owner outcome.events ∧
      ownersAfter table.owner outcome.events = outcome.table.owner := by
  cases effect with
  | quiet events rows _ =>
      rw [events, rows]
      exact ⟨trivial, rfl⟩
  | claims poolId events free owners _ _ _ _ =>
      rw [events, owners]
      exact ⟨⟨free, trivial⟩, rfl⟩
  | releases poolId events owned owners _ _ _ _ =>
      rw [events, owners]
      exact ⟨⟨owned, trivial⟩, rfl⟩

/-- A call holds a row because it held it before or has just claimed it. -/
theorem held_of_effect {poolId : ℤ} (effect : ClaimEffect call sessionId table pc input outcome)
    (held : outcome.pc.held = some poolId) :
    pc.held = some poolId ∨ .claimed call poolId sessionId ∈ outcome.events := by
  cases effect with
  | quiet _ _ kept =>
      rcases kept with same | lost
      · exact Or.inl (same.symm.trans held)
      · cases lost.symm.trans held
  | claims claimedId events _ _ _ _ _ kept =>
      rcases kept with this | lost
      · have same : claimedId = poolId := Option.some.inj (this.symm.trans held)
        rw [events, same]
        exact Or.inr List.mem_cons_self
      · cases lost.symm.trans held
  | releases _ _ _ _ _ _ _ lost => cases lost.symm.trans held

/-- Every step keeps the table a refinement of the log. -/
theorem step_refines {table : PoolTable} {before after : State} {action : Action}
    (refines : Refines table before) (taken : step before action = some after) :
    Refines table after := by
  cases action with
  | begin call sessionId =>
      simp only [step] at taken
      split at taken
      · cases taken
      · cases taken
        have claimed := @HeldClaimed.insert _ _ [] refines.claimed call sessionId .scanning
          (by rintro _ ⟨⟩)
        rw [List.append_nil] at claimed
        exact ⟨refines.exclusive, refines.owners, claimed⟩
  | claim call input =>
      simp only [step] at taken
      split at taken
      · cases taken
      · rename_i sessionId pc running
        obtain ⟨outcome, moved, rfl⟩ := Option.map_eq_some_iff.mp taken
        have effect := claimStep_effect moved
        obtain ⟨exclusive, owners⟩ := exclusive_of_effect effect
        obtain ⟨extended, agrees⟩ := refines.extend exclusive owners
        refine ⟨extended, agrees, refines.claimed.insert call sessionId ?_⟩
        intro poolId held
        rcases held_of_effect effect held with earlier | now
        · exact List.mem_append_left _
            (refines.claimed call ⟨sessionId, pc⟩ running poolId earlier)
        · exact List.mem_append_right _ now
  | release poolId sessionId fault =>
      cases taken
      rcases @release_cases sessionId before.table poolId fault with
        ⟨applied, owned, owners, _⟩ | ⟨unapplied, same⟩
      · have events : eventsOf (release before.table poolId sessionId fault).applied
            (.released poolId sessionId) = [.released poolId sessionId] := by
          rw [applied, eventsOf, if_pos rfl]
        have allowed : Exclusive before.table.owner
            [(.released poolId sessionId : PoolEvent)] := ⟨owned, trivial⟩
        obtain ⟨extended, agrees⟩ := refines.extend allowed owners.symm
        rw [← events] at extended agrees
        refine ⟨extended, agrees, ?_⟩
        exact refines.claimed.mono fun _ _ held poolId holds =>
          List.mem_append_left _ (held poolId holds)
      · have events : eventsOf (release before.table poolId sessionId fault).applied
            (.released poolId sessionId : PoolEvent) = [] := by
          rw [unapplied, eventsOf, if_neg Bool.false_ne_true]
        simp only [events, List.append_nil, same]
        exact ⟨refines.exclusive, refines.owners, refines.claimed⟩

/-- The table refines the log in every state that a run reaches. -/
theorem run_refines {table : PoolTable} {actions : List Action} {final : State}
    (run : execute step (start table) actions = some final) : Refines table final := by
  have initial : Refines table (start table) :=
    ⟨trivial, rfl, Table.All.empty⟩
  exact execute_invariant_of_step initial
    (fun _ _ _ refines taken => step_refines refines taken) run

/-- **Mutual exclusion of the pool.** In every state that any interleaving of
claims and releases reaches: a row has at most one owner, the session its
`claimed_by` names; a claim that returned a row has claimed it by its own write,
and the row is still the session's unless the session has released it since; and
between two claims of one row its first owner has released it. -/
theorem pool_exclusive {table : PoolTable} {actions : List Action} {final : State}
    (run : execute step (start table) actions = some final) :
    (∀ poolId owner other, Holds table.owner final.log poolId owner →
        Holds table.owner final.log poolId other → owner = other) ∧
      (∀ poolId owner, final.table.owner poolId = some owner ↔
        Holds table.owner final.log poolId owner) ∧
      (∀ call sessionId result,
        final.calls.lookup call = some ⟨sessionId, .returned result⟩ →
        ∃ before after, final.log = before ++ .claimed call result.poolId sessionId :: after ∧
          (.released result.poolId sessionId ∉ after →
            final.table.owner result.poolId = some sessionId)) ∧
      (∀ before call poolId owner between later next after, final.log =
          before ++ .claimed call poolId owner ::
            (between ++ .claimed later poolId next :: after) →
        .released poolId owner ∈ between) := by
  have refines := run_refines run
  have exclusive := refines.exclusive
  refine ⟨fun _ _ _ => exclusive.holds_unique, ?_, ?_, ?_⟩
  · intro poolId owner
    rw [exclusive.holds_iff, refines.owners]
  · intro call sessionId result returned
    have claimed := refines.claimed call _ returned result.poolId rfl
    obtain ⟨before, after, split⟩ := List.append_of_mem claimed
    refine ⟨before, after, split, fun unreleased => ?_⟩
    rw [← refines.owners, split]
    rw [split] at exclusive
    exact exclusive.claimed_keeps unreleased
  · intro before call poolId owner between later next after split
    rw [split] at exclusive
    exact exclusive.released_between

/-! ## A race on two rows -/

/-- A table of two free rows. -/
def twoRows : PoolTable :=
  AList.insert 1 ⟨.str "queue-1", none, none⟩ (AList.insert 0 ⟨.str "queue-0", none, none⟩ ∅)

/-- Two sessions race for the first row from the same scan. The loser takes the
second row, the winner releases the first, and a third session claims it. -/
def raceRun : List Action :=
  [.begin 1 "a", .begin 2 "b", .claim 1 (.scan [some 0, some 1] [0, 1]),
    .claim 2 (.scan [some 0, some 1] [0, 1]), .claim 1 (.update .none "t1"),
    .claim 2 (.update .none "t2"), .claim 2 (.update .none "t3"), .claim 1 (.getItem true),
    .claim 2 (.getItem true), .claim 1 .drained, .claim 2 .drained, .release 1 "a" .none,
    .release 0 "a" .none, .begin 3 "c", .claim 3 (.scan [some 0] [0]),
    .claim 3 (.update .none "t4"), .claim 3 (.getItem true), .claim 3 .drained]

/-- The exclusion theorem on the race. -/
theorem pool_exclusive_race :
    ∃ final, execute step (start twoRows) raceRun = some final ∧
      final.table.owner 0 = some "c" ∧ final.table.owner 1 = some "b" ∧
      Holds twoRows.owner final.log 0 "c" := by
  have reached : (execute step (start twoRows) raceRun).map
      (fun state => (state.table.owner 0, state.table.owner 1)) = some (some "c", some "b") := by
    decide +kernel
  obtain ⟨final, run, owners⟩ := Option.map_eq_some_iff.mp reached
  simp only [Prod.mk.injEq] at owners
  obtain ⟨first, second⟩ := owners
  have exclusive := pool_exclusive run
  exact ⟨final, run, first, second, (exclusive.2.1 0 "c").mp first⟩

end Panakoes.GpuSpawner.Pool
