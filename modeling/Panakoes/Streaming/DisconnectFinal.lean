import Panakoes.Foundation.Run
import Panakoes.Foundation.Table
import Panakoes.Streaming.SessionRow

/-! # Whether a disconnect is final

The router's `$connect` and `$disconnect`, the spawner's row update and the
lifecycle polls of transcriber containers interleave on one session row. Once
the disconnect is written, the row stays `disconnected` and every container
started later sees it on its first poll, as long as no other write of the row
is applied while it is `disconnected`. The spawner's update asks only that the
row exists, so a spawn in flight does write there.
-/

namespace Panakoes.Streaming.Disconnect

open Transition ConditionalWrite

/-- `LifecycleWatcher.watch` of one container: the polls that were answered,
`stop()` and the event. `late` marks a container started after the disconnect
was written. -/
structure Watcher where
  late : Bool
  polls : ℕ
  stopped : Bool
  event : Bool
  deriving DecidableEq

/-- The row, the watchers by container, and whether a `$disconnect` has been
written. -/
structure State where
  row : Option SessionRow
  watchers : Table ℕ Watcher
  written : Bool

/-- A step of one of the services. A poll whose `get_item` raises is only
logged. -/
inductive Action where
  | connect (connectionId : String) (request : ConnectRequest) (fault : Fault)
  | disconnect (now : String) (fault : Fault)
  | spawnUpdate (queueUrl : String) (poolId : ℤ) (fault : Fault)
  | startContainer (container : ℕ)
  | poll (container : ℕ) (answered : Bool)
  | stopWatcher (container : ℕ)
  deriving DecidableEq

/-- No row and no container. -/
def initial : State := ⟨none, ∅, false⟩

/-- One poll of `watch`. -/
def Watcher.poll (row : Option SessionRow) (answered : Bool) (watcher : Watcher) : Watcher :=
  if answered then { watcher with polls := watcher.polls + 1, event := seesDisconnect row }
  else watcher

/-- The loop of `watch` still runs. -/
def Watcher.Watching (watcher : Watcher) : Prop := watcher.event = false ∧ watcher.stopped = false

instance (watcher : Watcher) : Decidable watcher.Watching := inferInstanceAs (Decidable (_ ∧ _))

/-- One step on the row. -/
def step (state : State) : Action → Option State
  | .connect connectionId request fault =>
      some { state with
        row := (send fault state.row (some (connectItem connectionId request))).table }
  | .disconnect now fault =>
      let outcome := send fault state.row ((disconnectUpdate now state.row).map some)
      some { state with row := outcome.table, written := state.written || outcome.applied }
  | .spawnUpdate queueUrl poolId fault =>
      let outcome := send fault state.row ((spawnUpdate queueUrl poolId state.row).map some)
      some { state with row := outcome.table }
  | .startContainer container =>
      if container ∈ state.watchers then none
      else some { state with
        watchers := state.watchers.insert container ⟨state.written, 0, false, false⟩ }
  | .poll container answered =>
      match state.watchers.lookup container with
      | none => none
      | some watcher =>
          if watcher.Watching then
            some { state with
              watchers := state.watchers.insert container (watcher.poll state.row answered) }
          else none
  | .stopWatcher container =>
      (state.watchers.lookup container).map fun watcher =>
        { state with
          watchers := state.watchers.insert container { watcher with stopped := true } }

/-- No `$connect` and no spawner update is applied to a disconnected row. -/
def LeavesDisconnected (state : State) : Action → Prop
  | .connect _ _ fault | .spawnUpdate _ _ fault => Disconnected state.row → fault = .lost
  | _ => True

instance (state : State) (action : Action) : Decidable (LeavesDisconnected state action) :=
  match action with
  | .connect .. | .spawnUpdate .. => inferInstanceAs (Decidable (_ → _))
  | .disconnect .. | .startContainer _ | .poll .. | .stopWatcher _ => .isTrue trivial

/-- A container started after the disconnect has seen it on its first poll. -/
def Watcher.Informed (watcher : Watcher) : Prop :=
  watcher.late = true → (watcher.polls = 0 ∧ watcher.event = false) ∨
    (watcher.polls = 1 ∧ watcher.event = true)

/-- The disconnect is final in this state. -/
structure Final (state : State) : Prop where
  marked : state.written = true → Disconnected state.row
  informed : state.watchers.All fun _ watcher =>
    watcher.Informed ∧ (watcher.late = true → state.written = true)

/-- Changing one watcher keeps the others informed. -/
theorem Final.setWatcher {state : State} (final : Final state) (container : ℕ) {watcher : Watcher}
    (informed : watcher.Informed) (late : watcher.late = true → state.written = true) :
    Final { state with watchers := state.watchers.insert container watcher } :=
  ⟨final.marked, final.informed.insert ⟨informed, late⟩⟩

/-- A write that is not applied to a disconnected row keeps the disconnect final. -/
theorem Final.setRow {state : State} (final : Final state) (fault : Fault)
    (updated : Option (Option SessionRow)) (kept : Disconnected state.row → fault = .lost) :
    Final { state with row := (send fault state.row updated).table } := by
  refine ⟨?_, final.informed⟩
  intro written
  have marked := final.marked written
  rw [kept marked, send_lost_table]
  exact marked

theorem Watcher.Informed.poll {row : Option SessionRow} {watcher : Watcher} (answered : Bool)
    (informed : watcher.Informed) (watching : watcher.Watching)
    (marked : watcher.late = true → Disconnected row) : (watcher.poll row answered).Informed := by
  cases answered with
  | false => exact informed
  | true =>
      intro late
      rcases informed late with ⟨unpolled, _⟩ | ⟨_, event⟩
      · refine Or.inr ⟨?_, (marked late).seesDisconnect⟩
        simp only [Watcher.poll, if_true, unpolled]
      · rw [watching.1] at event
        cases event

/-- Every step keeps the disconnect final under the condition. -/
theorem step_final {before after : State} {action : Action} (final : Final before)
    (kept : LeavesDisconnected before action) (taken : step before action = some after) :
    Final after := by
  cases action with
  | connect connectionId request fault =>
      cases taken
      exact final.setRow fault _ kept
  | spawnUpdate queueUrl poolId fault =>
      cases taken
      exact final.setRow fault _ kept
  | disconnect now fault =>
      cases taken
      refine ⟨?_, final.informed.mono fun _ _ ⟨informed, late⟩ => ⟨informed, fun started => ?_⟩⟩
      · intro written
        rcases send_cases fault before.row ((disconnectUpdate now before.row).map some) with
          ⟨_, updated⟩ | ⟨unapplied, same⟩
        · obtain ⟨row, held, reached⟩ := Option.map_eq_some_iff.mp updated
          change Disconnected (send fault before.row _).table
          rw [← reached]
          exact disconnected_of_update held
        · change Disconnected (send fault before.row _).table
          change (before.written || (send fault before.row _).applied) = true at written
          rw [unapplied, Bool.or_false] at written
          rw [same]
          exact final.marked written
      · change (before.written || _) = true
        rw [late started, Bool.true_or]
  | startContainer container =>
      simp only [step] at taken
      split at taken
      · cases taken
      · cases taken
        exact final.setWatcher container (fun _ => Or.inl ⟨rfl, rfl⟩) id
  | poll container answered =>
      simp only [step] at taken
      split at taken
      · cases taken
      · rename_i watcher held
        split at taken
        · rename_i watching
          cases taken
          obtain ⟨informed, late⟩ := final.informed container watcher held
          have same : (watcher.poll before.row answered).late = watcher.late := by
            cases answered <;> rfl
          apply final.setWatcher container
          · exact informed.poll answered watching fun started => final.marked (late started)
          · rw [same]
            exact late
        · cases taken
  | stopWatcher container =>
      obtain ⟨watcher, held, rfl⟩ := Option.map_eq_some_iff.mp taken
      obtain ⟨informed, late⟩ := final.informed container watcher held
      exact final.setWatcher container informed late

def sampleConnect : ConnectRequest := ⟨"user", "tenant", "member", "t0", 0, none, none⟩

/-- The spawn has updated the row before the client disconnects. -/
def earlySpawnRun : List Action :=
  [.connect "s" sampleConnect .none, .spawnUpdate "queue-0" 0 .none, .disconnect "t1" .none,
    .startContainer 0, .poll 0 false, .poll 0 true]

/-- The client disconnects while the spawn is in flight. -/
def spawnInFlightRun : List Action :=
  [.connect "s" sampleConnect .none, .disconnect "t1" .none, .spawnUpdate "queue-0" 0 .none,
    .startContainer 0, .poll 0 true]

end Panakoes.Streaming.Disconnect
