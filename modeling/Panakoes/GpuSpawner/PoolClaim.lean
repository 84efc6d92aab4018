import Panakoes.Foundation.ConditionalWrite
import Panakoes.Foundation.Ownership
import Panakoes.Foundation.PyJson
import Panakoes.Foundation.Table

/-! # Claiming a frame queue from the pool

`PoolClaim` of the gpu-spawner: one row of the pool table for each pre-allocated
frame queue, claimed and released with conditional updates. `claim` is a machine
that stops before each call it makes; its environment answers the call. The
updates on the table follow the update expressions and their conditions, also
on a row that does not exist, which an update creates.
-/

namespace Panakoes.GpuSpawner

open ConditionalWrite Ownership

/-- A row of the pool table. `queueUrl` is `None` where the attribute is absent. -/
structure PoolRow where
  queueUrl : PyJson
  claimedBy : Option String
  claimedAt : Option String

/-- The pool table, by `pool_queue_id`. -/
abbrev PoolTable := Table ℤ PoolRow

/-- The events of the pool: which call claims which row for which session. -/
abbrev PoolEvent := Event ℕ ℤ String

/-- A successful claim. -/
structure PoolClaimResult where
  queueUrl : String
  poolId : ℤ
  deriving DecidableEq

namespace PoolTable

/-- The row an update finds. -/
def rowAt (table : PoolTable) (poolId : ℤ) : PoolRow :=
  (table.lookup poolId).getD ⟨.none, none, none⟩

/-- The session that a row is claimed by. -/
def owner (table : PoolTable) (poolId : ℤ) : Option String := (table.rowAt poolId).claimedBy

/-- The queue URL of a row, when it is a nonempty string. -/
def queueUrl? (table : PoolTable) (poolId : ℤ) : Option String :=
  (table.rowAt poolId).queueUrl.nonemptyStr?

/-- `SET claimed_by = :sid, claimed_at = :now` if `attribute_not_exists(claimed_by)`. -/
def claimSlot (table : PoolTable) (poolId : ℤ) (sessionId now : String) : Option PoolTable :=
  match owner table poolId with
  | some _ => none
  | none => some (table.insert poolId
      { rowAt table poolId with claimedBy := some sessionId, claimedAt := some now })

/-- `REMOVE claimed_by, claimed_at` if `claimed_by = :sid`. -/
def releaseSlot (table : PoolTable) (poolId : ℤ) (sessionId : String) : Option PoolTable :=
  if owner table poolId = some sessionId then
    some (table.insert poolId { rowAt table poolId with claimedBy := none, claimedAt := none })
  else none

variable {table after : PoolTable} {poolId : ℤ} {sessionId now : String}

theorem owner_insert (row : PoolRow) :
    owner (table.insert poolId row) = Function.update (owner table) poolId row.claimedBy := by
  funext other
  by_cases same : other = poolId
  · subst same
    simp only [owner, rowAt, AList.lookup_insert, Option.getD_some, Function.update_self]
  · simp only [owner, rowAt, AList.lookup_insert_ne same, Function.update_of_ne same]

/-- The claim attributes leave the queue URLs alone. -/
theorem queueUrl?_insert (claimedBy claimedAt : Option String) :
    queueUrl? (table.insert poolId { rowAt table poolId with claimedBy, claimedAt }) =
      queueUrl? table := by
  funext other
  by_cases same : other = poolId
  · subst same
    simp only [queueUrl?, rowAt, AList.lookup_insert, Option.getD_some]
  · simp only [queueUrl?, rowAt, AList.lookup_insert_ne same]

theorem claimSlot_eq_some (claimed : claimSlot table poolId sessionId now = some after) :
    owner table poolId = none ∧
      owner after = Function.update (owner table) poolId (some sessionId) ∧
      queueUrl? after = queueUrl? table := by
  unfold claimSlot at claimed
  split at claimed
  · cases claimed
  · rename_i free
    cases claimed
    exact ⟨free, owner_insert _, queueUrl?_insert _ _⟩

theorem releaseSlot_eq_some (released : releaseSlot table poolId sessionId = some after) :
    owner table poolId = some sessionId ∧
      owner after = Function.update (owner table) poolId none ∧
      queueUrl? after = queueUrl? table := by
  unfold releaseSlot at released
  split at released
  · rename_i owned
    cases released
    exact ⟨owned, owner_insert _, queueUrl?_insert _ _⟩
  · cases released

end PoolTable

/-- The exceptions a claim ends with: `PoolExhaustedError`, or what a call of
the client raises. -/
inductive ClaimError where
  | poolExhausted
  | serviceError
  deriving DecidableEq, Repr

/-- The call that `claim` is about to make, with the candidates still to try. -/
inductive ClaimPc where
  | scanning
  | trying (poolId : ℤ) (rest : List ℤ)
  | fetching (poolId : ℤ) (rest : List ℤ)
  | releasing (poolId : ℤ) (rest : List ℤ)
  | draining (result : PoolClaimResult)
  | returned (result : PoolClaimResult)
  | raised (error : ClaimError)
  deriving DecidableEq

/-- How the call is answered. A scan may be stale: it lists any ids, of which
`int` rejects some, and the shuffled candidates are given with it. A read may
miss the row. -/
inductive ClaimInput where
  | failed
  | scan (items : List (Option ℤ)) (candidates : List ℤ)
  | update (fault : Fault) (now : String)
  | getItem (found : Bool)
  | drained
  deriving DecidableEq

/-- `_scan_unclaimed`: the ids among the items. -/
def scanUnclaimed (items : List (Option ℤ)) : List ℤ := items.reduceOption

/-- The head of the loop over the candidates. -/
def nextCandidate : List ℤ → ClaimPc
  | [] => .raised .poolExhausted
  | poolId :: rest => .trying poolId rest

/-- After the conditional update of a candidate. -/
def afterClaim (poolId : ℤ) (rest : List ℤ) : Reply → ClaimPc
  | .ok => .fetching poolId rest
  | .conditionalCheckFailed => nextCandidate rest
  | .failed => .raised .serviceError

/-- After giving back a row without a queue URL. -/
def afterRelease (rest : List ℤ) : Reply → ClaimPc
  | .ok | .conditionalCheckFailed => nextCandidate rest
  | .failed => .raised .serviceError

/-- The effect of one answered call on the table, with its events. -/
structure ClaimOutcome where
  table : PoolTable
  pc : ClaimPc
  events : List PoolEvent

/-- The events of a write that may have been applied. -/
def eventsOf (applied : Bool) (event : PoolEvent) : List PoolEvent :=
  if applied then [event] else []

/-- `release(pool_id, session_id)`. -/
def release (table : PoolTable) (poolId : ℤ) (sessionId : String) (fault : Fault) :
    Outcome PoolTable :=
  send fault table (table.releaseSlot poolId sessionId)

/-- Run `claim(session_id)` from one call to the next. -/
def claimStep (call : ℕ) (sessionId : String) (table : PoolTable) (pc : ClaimPc)
    (input : ClaimInput) : Option ClaimOutcome :=
  match pc, input with
  | .scanning, .scan items candidates =>
      if candidates.Perm (scanUnclaimed items) then some ⟨table, nextCandidate candidates, []⟩
      else none
  | .trying poolId rest, .update fault now =>
      let written := send fault table (table.claimSlot poolId sessionId now)
      some ⟨written.table, afterClaim poolId rest written.reply,
        eventsOf written.applied (.claimed call poolId sessionId)⟩
  | .fetching poolId rest, .getItem found =>
      match if found then table.queueUrl? poolId else none with
      | some queueUrl => some ⟨table, .draining ⟨queueUrl, poolId⟩, []⟩
      | none => some ⟨table, .releasing poolId rest, []⟩
  | .releasing poolId rest, .update fault _ =>
      let written := release table poolId sessionId fault
      some ⟨written.table, afterRelease rest written.reply,
        eventsOf written.applied (.released poolId sessionId)⟩
  | .draining result, .drained => some ⟨table, .returned result, []⟩
  | .scanning, .failed | .fetching _ _, .failed | .draining _, .failed =>
      some ⟨table, .raised .serviceError, []⟩
  | _, _ => none

/-- The row that a call has claimed and not given back itself. -/
def ClaimPc.held : ClaimPc → Option ℤ
  | .fetching poolId _ | .releasing poolId _ => some poolId
  | .draining result | .returned result => some result.poolId
  | _ => none

/-- The row that the next request claims, if it is free. -/
def ClaimPc.trying? : ClaimPc → Option ℤ
  | .trying poolId _ => some poolId
  | _ => none

/-- The row that the next request gives back. -/
def ClaimPc.releasing? : ClaimPc → Option ℤ
  | .releasing poolId _ => some poolId
  | _ => none

/-- The answer is not that of a request that got lost. -/
def ClaimInput.Arrives : ClaimInput → Prop
  | .update fault _ => fault ≠ .lost
  | _ => True

instance : DecidablePred ClaimInput.Arrives
  | .update _ _ => inferInstanceAs (Decidable (_ ≠ _))
  | .failed | .scan _ _ | .getItem _ | .drained => .isTrue trivial

/-- The claim that a call is about to return. -/
def ClaimPc.result : ClaimPc → Option PoolClaimResult
  | .draining result | .returned result => some result
  | _ => none

@[simp] theorem held_nextCandidate (candidates : List ℤ) :
    (nextCandidate candidates).held = none := by
  cases candidates <;> rfl

@[simp] theorem result_nextCandidate (candidates : List ℤ) :
    (nextCandidate candidates).result = none := by
  cases candidates <;> rfl

theorem held_afterClaim (poolId : ℤ) (rest : List ℤ) (reply : Reply) :
    reply = .ok ∧ (afterClaim poolId rest reply).held = some poolId ∨
      (afterClaim poolId rest reply).held = none := by
  cases reply with
  | ok => exact Or.inl ⟨rfl, rfl⟩
  | conditionalCheckFailed => exact Or.inr (held_nextCandidate rest)
  | failed => exact Or.inr rfl

@[simp] theorem held_afterRelease (rest : List ℤ) (reply : Reply) :
    (afterRelease rest reply).held = none := by
  cases reply with
  | ok | conditionalCheckFailed => exact held_nextCandidate rest
  | failed => rfl

/-- All that one answered call can do. -/
inductive ClaimEffect (call : ℕ) (sessionId : String) (table : PoolTable) (pc : ClaimPc)
    (input : ClaimInput) (outcome : ClaimOutcome) : Prop where
  /-- The rows stay as they are. -/
  | quiet (events : outcome.events = []) (rows : outcome.table = table)
      (held : outcome.pc.held = pc.held ∨ outcome.pc.held = none)
  /-- A free row is claimed. -/
  | claims (poolId : ℤ) (events : outcome.events = [.claimed call poolId sessionId])
      (free : table.owner poolId = none)
      (owners : outcome.table.owner = Function.update table.owner poolId (some sessionId))
      (urls : outcome.table.queueUrl? = table.queueUrl?)
      (trying : pc.trying? = some poolId) (arrives : input.Arrives)
      (held : outcome.pc.held = some poolId ∨ outcome.pc.held = none)
  /-- The row that this call has claimed is given back. -/
  | releases (poolId : ℤ) (events : outcome.events = [.released poolId sessionId])
      (owned : table.owner poolId = some sessionId)
      (owners : outcome.table.owner = Function.update table.owner poolId none)
      (urls : outcome.table.queueUrl? = table.queueUrl?)
      (releasing : pc.releasing? = some poolId) (arrives : input.Arrives)
      (held : outcome.pc.held = none)

variable {call : ℕ} {sessionId : String} {table : PoolTable} {pc : ClaimPc} {input : ClaimInput}
  {outcome : ClaimOutcome}

/-- A release changes the table only when the row is owned by the session. -/
theorem release_cases {poolId : ℤ} {fault : Fault} :
    ((release table poolId sessionId fault).applied = true ∧
        table.owner poolId = some sessionId ∧
        (release table poolId sessionId fault).table.owner =
          Function.update table.owner poolId none ∧
        (release table poolId sessionId fault).table.queueUrl? = table.queueUrl?) ∨
      ((release table poolId sessionId fault).applied = false ∧
        (release table poolId sessionId fault).table = table) := by
  rcases send_cases fault table (table.releaseSlot poolId sessionId) with
    ⟨applied, released⟩ | unchanged
  · exact Or.inl ⟨applied, PoolTable.releaseSlot_eq_some released⟩
  · exact Or.inr unchanged

theorem ClaimPc.held_of_releasing {poolId : ℤ} (releasing : pc.releasing? = some poolId) :
    pc.held = some poolId := by
  cases pc with
  | releasing _ _ => exact releasing
  | _ => cases releasing

theorem claimStep_effect (taken : claimStep call sessionId table pc input = some outcome) :
    ClaimEffect call sessionId table pc input outcome := by
  unfold claimStep at taken
  split at taken
  · split at taken
    · cases taken
      exact .quiet rfl rfl (Or.inl (held_nextCandidate _))
    · cases taken
  · rename_i poolId rest fault now
    cases taken
    rcases send_cases fault table (table.claimSlot poolId sessionId now) with
      ⟨applied, claimed⟩ | ⟨unapplied, same⟩
    · obtain ⟨free, owners, urls⟩ := PoolTable.claimSlot_eq_some claimed
      refine .claims poolId ?_ free owners urls rfl (arrives_of_applied applied)
        ((held_afterClaim poolId rest _).imp And.right id)
      rw [applied, eventsOf, if_pos rfl]
    · refine .quiet ?_ same (Or.inr ?_)
      · rw [unapplied, eventsOf, if_neg Bool.false_ne_true]
      · rcases held_afterClaim poolId rest
          (send fault table (table.claimSlot poolId sessionId now)).reply with ⟨ok, _⟩ | unheld
        · rw [applied_of_ok ok] at unapplied
          cases unapplied
        · exact unheld
  · rename_i poolId rest found
    split at taken
    · cases taken
      exact .quiet rfl rfl (Or.inl rfl)
    · cases taken
      exact .quiet rfl rfl (Or.inl rfl)
  · rename_i poolId rest fault _
    cases taken
    rcases release_cases with ⟨applied, owned, owners, urls⟩ | ⟨unapplied, same⟩
    · refine .releases poolId ?_ owned owners urls rfl (arrives_of_applied applied)
        (held_afterRelease rest _)
      rw [applied, eventsOf, if_pos rfl]
    · refine .quiet ?_ same (Or.inr (held_afterRelease rest _))
      rw [unapplied, eventsOf, if_neg Bool.false_ne_true]
  · cases taken
    exact .quiet rfl rfl (Or.inl rfl)
  · cases taken
    exact .quiet rfl rfl (Or.inr rfl)
  · cases taken
    exact .quiet rfl rfl (Or.inr rfl)
  · cases taken
    exact .quiet rfl rfl (Or.inr rfl)
  · cases taken

/-- The queue URL of a claim was read from the row that was claimed. -/
theorem result_of_claimStep (taken : claimStep call sessionId table pc input = some outcome)
    {result : PoolClaimResult} (found : outcome.pc.result = some result) :
    pc.result = some result ∨ table.queueUrl? result.poolId = some result.queueUrl := by
  unfold claimStep at taken
  split at taken
  · split at taken
    · cases taken
      rw [result_nextCandidate] at found
      cases found
    · cases taken
  · rename_i poolId rest fault now
    cases taken
    generalize (send fault table (table.claimSlot poolId sessionId now)).reply = reply at found
    cases reply with
    | ok | failed => cases found
    | conditionalCheckFailed =>
        rw [afterClaim, result_nextCandidate] at found
        cases found
  · rename_i poolId rest wanted
    split at taken
    · rename_i queueUrl read
      cases taken
      cases found
      refine Or.inr ?_
      split at read
      · exact read
      · cases read
    · cases taken
      cases found
  · rename_i poolId rest fault _
    cases taken
    generalize (release table poolId sessionId fault).reply = reply at found
    cases reply with
    | ok | conditionalCheckFailed =>
        rw [afterRelease, result_nextCandidate] at found
        cases found
    | failed => cases found
  · cases taken
    exact Or.inl found
  all_goals
    cases taken
    try cases found

end Panakoes.GpuSpawner
