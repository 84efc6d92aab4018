import Mathlib.Algebra.Order.Ring.Rat
import Panakoes.Foundation.Run
import Panakoes.GpuSpawner.PoolClaim

/-! # What a claim that raises leaves behind

One call of `PoolClaim.claim` from its scan to its end, on any pool table and while other
sessions claim and release rows. The call writes its marker first and then reads the row
and drains the queue, so an exception of the read or of the drain leaves the row claimed,
as does a marker whose write is not acknowledged. The caller has no row id to release.
-/

namespace Panakoes.GpuSpawner

open Transition ConditionalWrite Ownership

/-! ## The drain -/

/-- A message that an earlier session left in the queue. -/
structure ResidualMessage where
  messageId : Option String
  receiptHandle : Option String
  deriving DecidableEq

/-- The entries of the delete request: messages whose id and receipt are not empty. -/
def drainEntries (messages : List ResidualMessage) : List (String × String) :=
  messages.filterMap fun message =>
    match message.messageId, message.receiptHandle with
    | some id, some receipt => if id ≠ "" ∧ receipt ≠ "" then some (id, receipt) else none
    | _, _ => none

/-- What one turn of the drain loop meets: the clock, the answer to the receive call, which
raises if there is none, and whether the delete call succeeds. -/
structure DrainTurn where
  now : ℚ
  received : Option (List ResidualMessage)
  deleted : Bool
  deriving DecidableEq

/-- The loop ends with the result in its last turn. -/
def drainEnds (rest : List DrainTurn) (result : Except ClaimError ℕ) :
    Option (Except ClaimError ℕ) :=
  if rest = [] then some result else none

/-- `_drain` from the loop test on, if it ends with the last of the turns. -/
def drain (deadline : ℚ) (discarded : ℕ) : List DrainTurn → Option (Except ClaimError ℕ)
  | [] => none
  | turn :: rest =>
      if turn.now < deadline then
        match turn.received with
        | none => drainEnds rest (.error .serviceError)
        | some messages =>
            if drainEntries messages = [] then drainEnds rest (.ok discarded)
            else if turn.deleted then
              drain deadline (discarded + (drainEntries messages).length) rest
            else drainEnds rest (.error .serviceError)
      else drainEnds rest (.ok discarded)

/-- The receive call of the turn raises, or the delete call it makes. -/
def DrainTurn.Raises (deadline : ℚ) (turn : DrainTurn) : Prop :=
  turn.now < deadline ∧
    (turn.received = none ∨
      turn.deleted = false ∧ ∃ messages ∈ turn.received, drainEntries messages ≠ [])

instance (deadline : ℚ) : DecidablePred (DrainTurn.Raises deadline) :=
  fun _ => inferInstanceAs (Decidable (_ ∧ (_ ∨ _ ∧ ∃ messages ∈ _, _)))

theorem drainEnds_eq_some {rest : List DrainTurn} {result ended : Except ClaimError ℕ}
    (ends : drainEnds rest result = some ended) : rest = [] ∧ result = ended := by
  unfold drainEnds at ends
  split at ends
  · rename_i last
    exact ⟨last, Option.some.inj ends⟩
  · cases ends

/-- The drain raises exactly when one of its calls does. -/
theorem drain_raises_iff {deadline : ℚ} {turns : List DrainTurn} {discarded : ℕ}
    {ended : Except ClaimError ℕ} (drained : drain deadline discarded turns = some ended) :
    (∃ error, ended = .error error) ↔ ∃ turn ∈ turns, turn.Raises deadline := by
  induction turns generalizing discarded with
  | nil => cases drained
  | cons turn rest ih =>
      rw [List.exists_mem_cons_iff]
      simp only [drain] at drained
      split at drained
      · rename_i early
        split at drained
        · rename_i raised
          obtain ⟨last, result⟩ := drainEnds_eq_some drained
          exact iff_of_true ⟨_, result.symm⟩ (Or.inl ⟨early, Or.inl raised⟩)
        · rename_i messages received
          split at drained
          · rename_i empty
            obtain ⟨last, result⟩ := drainEnds_eq_some drained
            subst last
            apply iff_of_false
            · intro raised
              obtain ⟨error, raised⟩ := raised
              cases result.trans raised
            · simp [DrainTurn.Raises, received, empty]
          · rename_i full
            split at drained
            · rename_i deleted
              refine (ih drained).trans (iff_or_self.mpr ?_)
              simp [DrainTurn.Raises, received, deleted]
            · rename_i refused
              obtain ⟨last, result⟩ := drainEnds_eq_some drained
              apply iff_of_true ⟨_, result.symm⟩
              exact Or.inl ⟨early, Or.inr ⟨Bool.not_eq_true _ ▸ refused, messages, received, full⟩⟩
      · rename_i late
        obtain ⟨last, result⟩ := drainEnds_eq_some drained
        subst last
        apply iff_of_false
        · intro raised
          obtain ⟨error, raised⟩ := raised
          cases result.trans raised
        · simp [DrainTurn.Raises, late]

/-! ## One call among others -/

/-- The pool table, the call, and the writes of the call that were applied. -/
structure ClaimRun where
  table : PoolTable
  pc : ClaimPc
  log : List PoolEvent

/-- A call of `claim` on a pool table. -/
def ClaimRun.start (table : PoolTable) : ClaimRun := ⟨table, .scanning, []⟩

/-- A request of the call is answered, its drain loop runs, or another session writes a row. -/
inductive ClaimAction where
  | answer (input : ClaimInput)
  | drain (startedAt : ℚ) (turns : List DrainTurn)
  | others (poolId : ℤ) (row : PoolRow)

variable (drainMaxSeconds : ℚ) (call : ℕ) (sessionId : String)

/-- The call goes on with the answer. -/
def ClaimRun.answered (state : ClaimRun) (input : ClaimInput) : Option ClaimRun :=
  (claimStep call sessionId state.table state.pc input).map fun outcome =>
    ⟨outcome.table, outcome.pc, state.log ++ outcome.events⟩

/-- One step. Other sessions touch neither the rows of this session nor make one its own. -/
def claimRunStep (state : ClaimRun) : ClaimAction → Option ClaimRun
  | .answer input =>
      if state.pc.result.isSome then none else state.answered call sessionId input
  | .drain startedAt turns =>
      if state.pc.result.isSome then
        match drain (startedAt + drainMaxSeconds) 0 turns with
        | none => none
        | some (.ok _) => state.answered call sessionId .drained
        | some (.error _) => state.answered call sessionId .failed
      else none
  | .others poolId row =>
      if state.table.owner poolId = some sessionId ∨ row.claimedBy = some sessionId then none
      else some { state with table := state.table.insert poolId row }

/-- The row is claimed by the session, and this call has claimed it. -/
def ClaimRun.LeftClaimed (state : ClaimRun) (poolId : ℤ) : Prop :=
  .claimed call poolId sessionId ∈ state.log ∧ state.table.owner poolId = some sessionId

/-- After the answer the call knows whether it holds a row, and gives back what it cannot use:
the marker of a free row is written with an acknowledgement or not at all, and neither the read
that follows it nor the release raises before its effect. -/
def AnswerRecovers (table : PoolTable) : ClaimPc → ClaimInput → Prop
  | .trying poolId _, .update fault _ =>
      table.owner poolId = none → fault ≠ .unacked ∧ fault ≠ .retried
  | .releasing _ _, .update fault _ => fault ≠ .lost
  | .fetching _ _, .failed | .draining _, .failed => False
  | _, _ => True

/-- No call raises between the marker and the end of the drain, and no marker is written
without an acknowledgement. -/
def ClaimRun.Recovers (state : ClaimRun) : ClaimAction → Prop
  | .answer input => AnswerRecovers state.table state.pc input
  | .drain startedAt turns => ∀ turn ∈ turns, ¬ turn.Raises (startedAt + drainMaxSeconds)
  | .others _ _ => True

/-! ## Rows held and rows leaked -/

namespace ClaimRun

variable {drainMaxSeconds call sessionId} {state after : ClaimRun} {input : ClaimInput}

/-- The row that the call has left claimed is the one it holds. -/
def Tracks (call : ℕ) (sessionId : String) (state : ClaimRun) : Prop :=
  ∀ poolId, state.LeftClaimed call sessionId poolId ↔ state.pc.held = some poolId

/-- The call has left a row claimed that it does not hold. -/
def Leaked (call : ℕ) (sessionId : String) (state : ClaimRun) : Prop :=
  ∃ poolId, state.LeftClaimed call sessionId poolId ∧ state.pc.held ≠ some poolId

theorem tracks_start (table : PoolTable) : (start table).Tracks call sessionId := by
  intro poolId
  apply iff_of_false
  · exact fun left => absurd left.1 List.not_mem_nil
  · exact (Option.some_ne_none poolId).symm

/-- An answer that changes no row and keeps what is held. -/
theorem Tracks.quiet (tracks : state.Tracks call sessionId) {pc : ClaimPc}
    (held : pc.held = state.pc.held) :
    Tracks call sessionId ⟨state.table, pc, state.log ++ []⟩ := by
  intro poolId
  rw [List.append_nil]
  exact (tracks poolId).trans (by rw [held])

/-- After a claim that is acknowledged the call holds the row. -/
theorem Tracks.claims (tracks : state.Tracks call sessionId) {poolId : ℤ} {table : PoolTable}
    (unheld : state.pc.held = none)
    (owners : table.owner = Function.update state.table.owner poolId (some sessionId))
    {pc : ClaimPc} (held : pc.held = some poolId) :
    Tracks call sessionId ⟨table, pc, state.log ++ [.claimed call poolId sessionId]⟩ := by
  intro other
  have before : ¬ state.LeftClaimed call sessionId other := by
    rw [tracks other, unheld]
    exact (Option.some_ne_none _).symm
  simp only [LeftClaimed, owners, held, List.mem_append, List.mem_singleton]
  by_cases same : other = poolId
  · subst same
    simp
  · rw [Function.update_of_ne same, Option.some.injEq]
    apply iff_of_false
    · intro left
      refine before ⟨left.1.resolve_right ?_, left.2⟩
      intro event
      cases event
      exact same rfl
    · exact fun other => same other.symm

/-- After a release that is applied the call has left nothing claimed. -/
theorem Tracks.releases (tracks : state.Tracks call sessionId) {poolId : ℤ} {table : PoolTable}
    (held : state.pc.held = some poolId)
    (owners : table.owner = Function.update state.table.owner poolId none)
    {pc : ClaimPc} (unheld : pc.held = none) :
    Tracks call sessionId ⟨table, pc, state.log ++ [.released poolId sessionId]⟩ := by
  intro other
  simp only [LeftClaimed, owners, unheld, List.mem_append, List.mem_singleton, reduceCtorEq,
    or_false, iff_false, not_and]
  intro claimed
  by_cases same : other = poolId
  · subst same
    rw [Function.update_self]
    exact (Option.some_ne_none _).symm
  · rw [Function.update_of_ne same]
    intro owned
    have holds := (tracks other).mp ⟨claimed, owned⟩
    exact same (Option.some.inj (holds.symm.trans held))

/-- An answer after which the call recovers keeps track of the row. -/
theorem Tracks.answered (tracks : state.Tracks call sessionId)
    (answered : state.answered call sessionId input = some after)
    (recovers : AnswerRecovers state.table state.pc input) : after.Tracks call sessionId := by
  obtain ⟨outcome, moved, rfl⟩ := Option.map_eq_some_iff.mp answered
  obtain ⟨table, pc, log⟩ := state
  simp only at moved recovers tracks
  unfold claimStep at moved
  split at moved
  · split at moved
    · cases moved
      exact tracks.quiet (held_nextCandidate _)
    · cases moved
  · rename_i poolId rest fault now
    cases moved
    dsimp only
    rcases send_cases fault table (table.claimSlot poolId sessionId now) with
      ⟨applied, claimed⟩ | ⟨unapplied, same⟩
    · obtain ⟨free, owners, _⟩ := PoolTable.claimSlot_eq_some claimed
      have arrived := arrives_of_applied applied
      obtain ⟨acknowledged, single⟩ := recovers free
      rw [applied, eventsOf, if_pos rfl]
      apply tracks.claims rfl owners
      rw [claimed, send_some_reply]
      cases fault with
      | none => rfl
      | lost => exact absurd rfl arrived
      | unacked => exact absurd rfl acknowledged
      | retried => exact absurd rfl single
    · rw [unapplied, eventsOf, if_neg Bool.false_ne_true, same]
      apply tracks.quiet
      rcases held_afterClaim poolId rest
          (send fault table (table.claimSlot poolId sessionId now)).reply with ⟨ok, _⟩ | unheld
      · rw [applied_of_ok ok] at unapplied
        cases unapplied
      · exact unheld
  · split at moved
    · cases moved
      exact tracks.quiet rfl
    · cases moved
      exact tracks.quiet rfl
  · rename_i poolId rest fault _
    cases moved
    dsimp only
    rcases @release_cases sessionId table poolId fault with
      ⟨applied, _, owners, _⟩ | ⟨unapplied, _⟩
    · rw [applied, eventsOf, if_pos rfl]
      exact tracks.releases rfl owners (held_afterRelease rest _)
    · -- The row is still owned by the session, so only a lost request is not applied.
      have owned := ((tracks poolId).mpr rfl).2
      have released : ∃ freed, table.releaseSlot poolId sessionId = some freed :=
        ⟨_, if_pos owned⟩
      obtain ⟨freed, released⟩ := released
      rw [release, released] at unapplied
      cases fault with
      | lost => exact absurd rfl recovers
      | none | unacked | retried => cases unapplied
  · cases moved
    exact tracks.quiet rfl
  · cases moved
    exact tracks.quiet rfl
  · exact recovers.elim
  · exact recovers.elim
  · cases moved

/-- An answer after which the call does not recover leaks the row. -/
theorem Tracks.leaks (tracks : state.Tracks call sessionId)
    (answered : state.answered call sessionId input = some after)
    (unrecovered : ¬ AnswerRecovers state.table state.pc input) :
    after.Leaked call sessionId := by
  obtain ⟨outcome, moved, rfl⟩ := Option.map_eq_some_iff.mp answered
  obtain ⟨table, pc, log⟩ := state
  simp only at moved unrecovered tracks
  have loses : ∀ poolId, pc.held = some poolId →
      Leaked call sessionId ⟨table, .raised .serviceError, log ++ []⟩ := by
    intro poolId held
    refine ⟨poolId, ?_, (Option.some_ne_none _).symm⟩
    rw [List.append_nil]
    exact (tracks poolId).mpr held
  unfold AnswerRecovers at unrecovered
  split at unrecovered
  · rename_i poolId rest fault now
    obtain ⟨free, unsafely⟩ := Classical.not_imp.mp unrecovered
    cases moved
    have claims : ∃ claimed, table.claimSlot poolId sessionId now = some claimed ∧
        claimed.owner poolId = some sessionId := by
      simp only [PoolTable.claimSlot, free, Option.some.injEq, exists_eq_left',
        PoolTable.owner_insert, Function.update_self]
    obtain ⟨claimed, written, owned⟩ := claims
    refine ⟨poolId, ?_, ?_⟩
    · dsimp only
      rw [written]
      cases fault with
      | none => exact absurd ⟨Fault.noConfusion, Fault.noConfusion⟩ unsafely
      | lost => exact absurd ⟨Fault.noConfusion, Fault.noConfusion⟩ unsafely
      | unacked | retried => exact ⟨List.mem_append_right _ List.mem_cons_self, owned⟩
    · dsimp only
      rw [written, send_some_reply]
      cases fault with
      | none => exact absurd ⟨Fault.noConfusion, Fault.noConfusion⟩ unsafely
      | lost => exact absurd ⟨Fault.noConfusion, Fault.noConfusion⟩ unsafely
      | unacked => exact (Option.some_ne_none _).symm
      | retried =>
          rw [Fault.reply, afterClaim, held_nextCandidate]
          exact (Option.some_ne_none _).symm
  · rename_i poolId rest fault now
    rw [not_not] at unrecovered
    subst unrecovered
    cases moved
    have owned := ((tracks poolId).mpr rfl).2
    have released : ∃ freed, table.releaseSlot poolId sessionId = some freed :=
      ⟨_, if_pos owned⟩
    obtain ⟨freed, released⟩ := released
    dsimp only [release]
    rw [released]
    exact loses poolId rfl
  · cases moved
    exact loses _ rfl
  · cases moved
    exact loses _ rfl
  · exact absurd trivial unrecovered

/-- An answer leaves a row alone that the session owns and the call does not hold. -/
theorem unheld_of_effect {table : PoolTable} {pc : ClaimPc} {outcome : ClaimOutcome} {poolId : ℤ}
    (effect : ClaimEffect call sessionId table pc input outcome)
    (owned : table.owner poolId = some sessionId) (unheld : pc.held ≠ some poolId) :
    outcome.table.owner poolId = some sessionId ∧ outcome.pc.held ≠ some poolId := by
  cases effect with
  | quiet _ rows held =>
      rw [rows]
      refine ⟨owned, ?_⟩
      rcases held with kept | lost
      · rwa [kept]
      · rw [lost]
        exact (Option.some_ne_none _).symm
  | claims other _ free owners _ _ _ held =>
      have different : poolId ≠ other := by
        intro same
        subst same
        cases owned.symm.trans free
      rw [owners, Function.update_of_ne different]
      refine ⟨owned, ?_⟩
      rcases held with now | lost
      · rw [now]
        exact fun same => different (Option.some.inj same).symm
      · rw [lost]
        exact (Option.some_ne_none _).symm
  | releases other _ _ owners _ releasing _ held =>
      have different : poolId ≠ other := by
        intro same
        subst same
        exact unheld (ClaimPc.held_of_releasing releasing)
      rw [owners, Function.update_of_ne different, held]
      exact ⟨owned, (Option.some_ne_none _).symm⟩

/-- What the call has leaked stays leaked. -/
theorem Leaked.answered (leaked : state.Leaked call sessionId)
    (answered : state.answered call sessionId input = some after) :
    after.Leaked call sessionId := by
  obtain ⟨outcome, moved, rfl⟩ := Option.map_eq_some_iff.mp answered
  obtain ⟨poolId, left, unheld⟩ := leaked
  obtain ⟨owned, lost⟩ := unheld_of_effect (claimStep_effect moved) left.2 unheld
  exact ⟨poolId, ⟨List.mem_append_left _ left.1, owned⟩, lost⟩

/-- Other sessions leave the rows of this session alone. -/
theorem leftClaimed_others {poolId : ℤ} {row : PoolRow}
    (foreign : ¬ (state.table.owner poolId = some sessionId ∨ row.claimedBy = some sessionId))
    (other : ℤ) :
    LeftClaimed call sessionId { state with table := state.table.insert poolId row } other ↔
      state.LeftClaimed call sessionId other := by
  obtain ⟨before, now⟩ := not_or.mp foreign
  simp only [LeftClaimed, PoolTable.owner_insert]
  by_cases same : other = poolId
  · subst same
    rw [Function.update_self, iff_false_intro now, iff_false_intro before]
  · rw [Function.update_of_ne same]

/-! ## One step -/

variable {action : ClaimAction}

/-- A step that goes on with an answer, or one of another session. -/
theorem claimRunStep_cases
    (taken : claimRunStep drainMaxSeconds call sessionId state action = some after) :
    (∃ input, state.answered call sessionId input = some after ∧
        (AnswerRecovers state.table state.pc input ↔
          state.Recovers drainMaxSeconds action)) ∨
      ∃ poolId row, action = .others poolId row ∧
        ¬ (state.table.owner poolId = some sessionId ∨ row.claimedBy = some sessionId) ∧
        after = { state with table := state.table.insert poolId row } := by
  cases action with
  | answer input =>
      simp only [claimRunStep] at taken
      split at taken
      · cases taken
      · exact Or.inl ⟨input, taken, Iff.rfl⟩
  | drain startedAt turns =>
      simp only [claimRunStep] at taken
      split at taken
      · split at taken
        · cases taken
        · rename_i discarded drained
          refine Or.inl ⟨.drained, taken, iff_of_true ?_ ?_⟩
          · unfold AnswerRecovers
            split <;> trivial
          · intro turn member raises
            obtain ⟨error, raised⟩ := (drain_raises_iff drained).mpr ⟨turn, member, raises⟩
            cases raised
        · rename_i holding _ error drained
          refine Or.inl ⟨.failed, taken, iff_of_false ?_ ?_⟩
          · cases at_pc : state.pc with
            | draining result => exact id
            | returned result =>
                rw [ClaimRun.answered, at_pc] at taken
                cases taken
            | _ =>
                rw [at_pc] at holding
                cases holding
          · intro quiet
            obtain ⟨turn, member, raises⟩ := (drain_raises_iff drained).mp ⟨error, rfl⟩
            exact quiet turn member raises
      · cases taken
  | others poolId row =>
      simp only [claimRunStep] at taken
      split at taken
      · cases taken
      · rename_i foreign
        cases taken
        exact Or.inr ⟨poolId, row, rfl, foreign, rfl⟩

/-- Every step of the run recovers. -/
def AllRecover (drainMaxSeconds : ℚ) (call : ℕ) (sessionId : String) (table : PoolTable)
    (actions : List ClaimAction) : Prop :=
  Meets (claimRunStep drainMaxSeconds call sessionId)
    (fun _ state action => state.Recovers drainMaxSeconds action) [] (start table) actions

/-- While every step recovers, the call keeps track of the row; the first step that does not
recover leaks it, and it stays leaked. -/
theorem tracks_or_leaked {table : PoolTable} {actions : List ClaimAction} {final : ClaimRun}
    (run : execute (claimRunStep drainMaxSeconds call sessionId) (start table) actions =
      some final) :
    (AllRecover drainMaxSeconds call sessionId table actions ∧ final.Tracks call sessionId) ∨
      (¬ AllRecover drainMaxSeconds call sessionId table actions ∧
        final.Leaked call sessionId) := by
  induction actions using List.reverseRecOn generalizing final with
  | nil =>
      cases run
      exact Or.inl ⟨trivial, tracks_start table⟩
  | append_singleton past action ih =>
      obtain ⟨before, reached, taken⟩ := (execute_concat_eq_some _).mp run
      have extends_iff : AllRecover drainMaxSeconds call sessionId table (past ++ [action]) ↔
          AllRecover drainMaxSeconds call sessionId table past ∧
            before.Recovers drainMaxSeconds action := by
        simp [AllRecover, Meets.append, Meets, reached]
      rw [extends_iff]
      rcases ih reached with ⟨recover, tracks⟩ | ⟨unrecovered, leaked⟩
      · rcases claimRunStep_cases taken with
          ⟨input, answered, same⟩ | ⟨poolId, row, rfl, foreign, rfl⟩
        · by_cases recovers : before.Recovers drainMaxSeconds action
          · exact Or.inl ⟨⟨recover, recovers⟩, tracks.answered answered (same.mpr recovers)⟩
          · refine Or.inr ⟨fun both => recovers both.2, ?_⟩
            exact tracks.leaks answered fun answer => recovers (same.mp answer)
        · refine Or.inl ⟨⟨recover, trivial⟩, fun other => ?_⟩
          exact (leftClaimed_others foreign other).trans (tracks other)
      · refine Or.inr ⟨fun both => unrecovered both.1, ?_⟩
        rcases claimRunStep_cases taken with
          ⟨input, answered, _⟩ | ⟨poolId, row, rfl, foreign, rfl⟩
        · exact leaked.answered answered
        · obtain ⟨other, left, unheld⟩ := leaked
          exact ⟨other, (leftClaimed_others foreign other).mpr left, unheld⟩

end ClaimRun

/-- **A claim that raises.** It has left no row claimed by the session exactly when every one of
its steps recovers: no call raises between the marker and the end of the drain, and no marker is
written without an acknowledgement. -/
theorem claim_atomic_iff (drainMaxSeconds : ℚ) (call : ℕ) (sessionId : String) (table : PoolTable)
    (actions : List ClaimAction) (final : ClaimRun) (error : ClaimError)
    (run : execute (claimRunStep drainMaxSeconds call sessionId) (.start table) actions =
      some final)
    (raised : final.pc = .raised error) :
    (∀ poolId, ¬ final.LeftClaimed call sessionId poolId) ↔
      Meets (claimRunStep drainMaxSeconds call sessionId)
        (fun _ state action => state.Recovers drainMaxSeconds action) [] (.start table) actions := by
  rcases ClaimRun.tracks_or_leaked run with ⟨recover, tracks⟩ | ⟨unrecovered, leaked⟩
  · refine iff_of_true ?_ recover
    intro poolId left
    have held := (tracks poolId).mp left
    rw [raised] at held
    cases held
  · refine iff_of_false ?_ unrecovered
    intro none
    obtain ⟨poolId, left, _⟩ := leaked
    exact none poolId left

/-! ## Claims on a pool of one row -/

/-- A pool with one free row. -/
def singlePool (queueUrl : PyJson) : PoolTable := (∅ : PoolTable).insert 0 ⟨queueUrl, none, none⟩

/-- The scan finds the row and the marker is written. -/
def singleClaim : List ClaimAction :=
  [.answer (.scan [some 0] [0]), .answer (.update .none "now")]

/-- The marked row has no queue and is released. -/
def releasedClaim : List ClaimAction :=
  singleClaim ++ [.answer (.getItem true), .answer (.update .none "")]

/-- A row without a queue is given back before the claim raises. -/
theorem claim_atomic_no_queue :
    ∃ final, execute (claimRunStep 3 0 "s") (.start (singlePool .none)) releasedClaim =
        some final ∧
      final.pc = .raised .poolExhausted ∧ ∀ poolId, ¬ final.LeftClaimed 0 "s" poolId := by
  have run : ∃ final, execute (claimRunStep 3 0 "s") (.start (singlePool .none)) releasedClaim =
      some final ∧ final.pc = .raised .poolExhausted := ⟨_, rfl, rfl⟩
  obtain ⟨final, run, raised⟩ := run
  refine ⟨final, run, raised, (claim_atomic_iff 3 0 "s" _ releasedClaim _ _ run raised).mpr ?_⟩
  apply Meets.cons trivial rfl
  apply Meets.cons (fun _ => ⟨Fault.noConfusion, Fault.noConfusion⟩) rfl
  apply Meets.cons trivial rfl
  exact Meets.cons Fault.noConfusion rfl trivial

/-- The read of the row raises, and the row stays claimed. -/
theorem claim_read_leaks :
    ¬ ∀ (drainMaxSeconds : ℚ) (call : ℕ) (sessionId : String) (table : PoolTable)
      (actions : List ClaimAction) (final : ClaimRun) (error : ClaimError),
      execute (claimRunStep drainMaxSeconds call sessionId) (.start table) actions = some final →
      final.pc = .raised error → ∀ poolId, ¬ final.LeftClaimed call sessionId poolId := by
  intro always
  apply always 3 0 "s" (singlePool (.str "queue")) (singleClaim ++ [.answer .failed]) _ _ rfl rfl 0
  exact ⟨List.mem_singleton_self _, rfl⟩

end Panakoes.GpuSpawner
