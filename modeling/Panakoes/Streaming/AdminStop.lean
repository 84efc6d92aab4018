import Panakoes.Foundation.Run
import Panakoes.Foundation.Table
import Panakoes.Streaming.LiveTranscript
import Panakoes.TranscriberStream.Finalize

/-! # Stopping a session from the admin API

The admin API terminates, kills or blocks a streaming session by a status of its
own in the session row. The router, the spawner and the transcriber write the same
attribute, each with its own words, and the container of the session watches it for
one word only. A stop sticks as long as no `$connect` and no spawner update meets a
row that is over, and it is observed where a `$disconnect` follows.
-/

namespace Panakoes.Streaming.AdminStop

open Transition ConditionalWrite TranscriberStream
open PyJson (get getD set getD_set_self getD_set_of_ne)

/-- An item of the sessions table. -/
abbrev Item := List (String × PyJson)

/-- `item.get("status", "")`; every writer writes a string. -/
def statusOf (item : Item) : String :=
  match getD item "status" (.str "") with
  | .str text => text
  | _ => ""

/-- The status of a session that is over: the admin API's, the router's and the
transcriber's. -/
def terminalStatuses : List String := ["errored", "disconnected"] ++ endStatuses.map Prod.snd

/-- The row is there and its session is over. -/
def Terminal (row : Option Item) : Prop := ∃ item ∈ row, statusOf item ∈ terminalStatuses

instance (row : Option Item) : Decidable (Terminal row) :=
  inferInstanceAs (Decidable (∃ item ∈ row, _))

/-- The row is there and `$disconnect` was the last to write its status. -/
def MarkedDisconnected (row : Option Item) : Prop := ∃ item ∈ row, statusOf item = "disconnected"

instance (row : Option Item) : Decidable (MarkedDisconnected row) :=
  inferInstanceAs (Decidable (∃ item ∈ row, _))

/-- What a poll of the lifecycle watcher makes of the row. -/
def watchSees : Option Item → Bool
  | none => true
  | some item => normalizeStatus (statusOf item) = "disconnected".toList

/-- An operation of the admin API on a streaming session. -/
inductive Operation where
  | terminate
  | kill
  | block
  deriving DecidableEq

/-- The attributes all three operations set. -/
def errored (reason now : String) (item : Item) : Item :=
  set (set (set item "status" (.str "errored")) "terminated_at" (.str now)) "termination_reason"
    (.str reason)

/-- The update of the operation's handler. -/
def Operation.update (operation : Operation) (reason now : String) (item : Item) : Item :=
  match operation with
  | .terminate => errored reason now item
  | .kill =>
      set (errored reason now item) "termination_source" (.str "tier3.kill-streaming-session")
  | .block => set (errored reason now item) "termination_source" (.str "tier3.block-user-sessions")

/-- The statuses that `block-user-sessions` looks for. -/
def blockable : List String := ["active", "starting", "paused"]

/-- Where a request is: before `get_item`, before the query of the user's sessions,
before its update, before what is left (the tombstone event, or the user's other
sessions), or ended. -/
inductive Progress where
  | reading
  | querying
  | updating
  | settling
  | succeeded
  | failed
  deriving DecidableEq

/-- A request of the admin API. -/
structure Request where
  operation : Operation
  reason : String
  progress : Progress
  deriving DecidableEq

/-- `str.strip`. -/
def pyStrip (text : String) : String :=
  String.ofList ((text.toList.dropWhile isPySpace).reverse.dropWhile isPySpace).reverse

/-- The handler up to its first call; it asks for a reason. -/
def Request.submitted (operation : Operation) (reason : String) : Request :=
  let reason := pyStrip reason
  if reason = "" then ⟨operation, reason, .failed⟩
  else
    match operation with
    | .terminate => ⟨operation, reason, .updating⟩
    | .kill => ⟨operation, reason, .reading⟩
    | .block => ⟨operation, reason, .querying⟩

/-- `get_item` of the kill handler. -/
def Request.read (request : Request) (answered : Bool) (row : Option Item) : Request :=
  { request with progress := if answered ∧ row.isSome then .updating else .failed }

/-- The query of the block handler. `listed` is the session's status in the index, if
the session is there. -/
def Request.query (request : Request) (answered : Bool) (listed : Option String) : Request :=
  { request with
    progress :=
      if answered then if ∃ status ∈ listed, status ∈ blockable then .updating else .settling
      else .failed }

/-- The reply to the update. -/
def Request.updated (request : Request) (reply : Reply) : Request :=
  { request with
    progress :=
      match reply, request.operation with
      | .ok, .terminate => .succeeded
      | .ok, _ => .settling
      | _, _ => .failed }

/-- A container's watcher, with the polls answered since a success was reported. -/
structure Watcher where
  pollsSince : ℕ
  stopped : Bool
  event : Bool
  deriving DecidableEq

/-- The row, the watchers by container, the requests, and whether one of them has
reported success. -/
structure State where
  row : Option Item
  watchers : Table ℕ Watcher
  requests : Table ℕ Request
  reported : Bool

/-- A step of one of the services. -/
inductive Action where
  | connect (request : ConnectRequest) (fault : Fault)
  | write (update : RowUpdate) (fault : Fault)
  | startContainer (container : ℕ)
  | poll (container : ℕ) (answered : Bool)
  | stopWatcher (container : ℕ)
  | submit (id : ℕ) (operation : Operation) (reason : String)
  | read (id : ℕ) (answered : Bool)
  | query (id : ℕ) (answered : Bool) (listed : Option String)
  | update (id : ℕ) (now : String) (fault : Fault)
  | settle (id : ℕ) (succeeds : Bool)

/-- No row, no container and no request. -/
def initial : State := ⟨none, ∅, ∅, false⟩

/-- One poll of `watch`. -/
def Watcher.poll (row : Option Item) (answered reported : Bool) (watcher : Watcher) : Watcher :=
  if answered then
    { watcher with
      pollsSince := if reported then watcher.pollsSince + 1 else watcher.pollsSince
      event := watchSees row }
  else watcher

/-- The loop of `watch` still runs. -/
def Watcher.Watching (watcher : Watcher) : Prop := watcher.event = false ∧ watcher.stopped = false

instance (watcher : Watcher) : Decidable watcher.Watching := inferInstanceAs (Decidable (_ ∧ _))

/-- Send an update that asks only that the row exists: repeating it does no more. -/
def updateExisting (fault : Fault) (row : Option Item) (change : Item → Item) :
    Outcome (Option Item) :=
  match row with
  | none => send fault none none
  | some item => put fault (some item) (some (change item))

/-- The row after a write. The router and the spawner ask that the row exists; the
transcriber's passes and its end are those of a container, which runs only on a row
that exists. -/
def writeRow (sessionId : String) (fault : Fault) (row : Option Item) :
    RowUpdate → Option (Option Item)
  | .disconnect now =>
      some (updateExisting fault row (applyUpdate sessionId · (.disconnect now))).table
  | .spawn queueUrl poolId =>
      some (updateExisting fault row (applyUpdate sessionId · (.spawn queueUrl poolId))).table
  | .pass tokens audioUpto now =>
      row.map fun _ =>
        (updateExisting fault row (applyUpdate sessionId · (.pass tokens audioUpto now))).table
  | .final status audioUpto now =>
      if status ∈ endStatuses.map Prod.snd then
        row.map fun _ =>
          (updateExisting fault row (applyUpdate sessionId · (.final status audioUpto now))).table
      else none

/-- A request that is at the place goes on. -/
def State.advance (state : State) (id : ℕ) (place : Progress) (next : Request → Request) :
    Option State :=
  (state.requests.lookup id).bind fun request =>
    if request.progress = place then
      some { state with
        requests := state.requests.insert id (next request)
        reported := state.reported || decide ((next request).progress = .succeeded) }
    else none

/-- One step on the session. -/
def step (sessionId : String) (state : State) : Action → Option State
  | .connect request fault =>
      some { state with
        row := (put fault state.row
          (some ((connectItem sessionId request).attributes sessionId))).table }
  | .write update fault =>
      (writeRow sessionId fault state.row update).map fun row => { state with row }
  | .startContainer container =>
      if container ∈ state.watchers ∨ state.row = none then none
      else some { state with watchers := state.watchers.insert container ⟨0, false, false⟩ }
  | .poll container answered =>
      match state.watchers.lookup container with
      | none => none
      | some watcher =>
          if watcher.Watching then
            some { state with
              watchers := state.watchers.insert container
                (watcher.poll state.row answered state.reported) }
          else none
  | .stopWatcher container =>
      (state.watchers.lookup container).map fun watcher =>
        { state with
          watchers := state.watchers.insert container { watcher with stopped := true } }
  | .submit id operation reason =>
      if id ∈ state.requests then none
      else some { state with requests := state.requests.insert id (.submitted operation reason) }
  | .read id answered => state.advance id .reading fun request => request.read answered state.row
  | .query id answered listed => state.advance id .querying fun request =>
      request.query answered listed
  | .update id now fault =>
      (state.requests.lookup id).bind fun request =>
        let outcome :=
          updateExisting fault state.row (request.operation.update request.reason now ·)
        { state with row := outcome.table }.advance id .updating fun request =>
          request.updated outcome.reply
  | .settle id succeeds => state.advance id .settling fun request =>
      { request with progress := if succeeds then .succeeded else .failed }

/-! ## What a write does to the status -/

section Status

variable {item : Item} {key : String} {value : PyJson} {sessionId : String}

theorem statusOf_set (other : key ≠ "status") : statusOf (set item key value) = statusOf item := by
  rw [statusOf, getD_set_of_ne (Ne.symm other), statusOf]

theorem statusOf_set_status (status : String) :
    statusOf (set item "status" (.str status)) = status := by
  rw [statusOf, getD_set_self]

theorem statusOf_disconnect (now : String) :
    statusOf (applyUpdate sessionId item (.disconnect now)) = "disconnected" := by
  rw [applyUpdate, statusOf_set (by decide), statusOf_set_status]

theorem statusOf_final (status now : String) (audioUpto : ℚ) :
    statusOf (applyUpdate sessionId item (.final status audioUpto now)) = status := by
  rw [applyUpdate, endedRow, statusOf_set (by decide), statusOf_set (by decide),
    statusOf_set (by decide), statusOf_set (by decide), statusOf_set_status]

/-- A pass leaves the status. -/
theorem statusOf_pass (tokens : List AsrToken) (audioUpto : ℚ) (now : String) :
    statusOf (applyUpdate sessionId item (.pass tokens audioUpto now)) = statusOf item := by
  rw [applyUpdate, updateLastTranscriptTokens]
  split
  · rfl
  · rw [if_pos rfl, lastTranscriptItem]
    split
    · rw [Option.getD_some, statusOf_set (by decide), statusOf_set (by decide),
        statusOf_set (by decide)]
    · rfl

/-- A stopped row has the admin API's status. -/
theorem statusOf_update (operation : Operation) (reason now : String) :
    statusOf (operation.update reason now item) = "errored" := by
  have stopped : statusOf (errored reason now item) = "errored" := by
    rw [errored, statusOf_set (by decide), statusOf_set (by decide), statusOf_set_status]
  cases operation with
  | terminate => exact stopped
  | kill => exact (statusOf_set (by decide)).trans stopped
  | block => exact (statusOf_set (by decide)).trans stopped

/-- The watcher does not see the stop. -/
theorem watchSees_update (operation : Operation) (reason now : String) :
    watchSees (some (operation.update reason now item)) = false := by
  rw [watchSees, statusOf_update]
  decide

end Status

/-! ## When a stop sticks -/

section Rows

variable {sessionId : String} {row after : Option Item} {fault : Fault} {change : Item → Item}

/-- An update that ends well leaves its own status. -/
theorem terminal_of_ok (terminal : ∀ item, statusOf (change item) ∈ terminalStatuses)
    (ok : (updateExisting fault row change).reply = .ok) :
    Terminal (updateExisting fault row change).table := by
  cases row with
  | none => cases fault <;> cases ok
  | some item =>
      cases fault with
      | none | retried => exact ⟨_, rfl, terminal item⟩
      | lost | unacked => cases ok

/-- An update to a terminal status, or one that leaves the status, keeps a row terminal. -/
theorem Terminal.updateExisting (ended : Terminal row)
    (kept : ∀ item, statusOf item ∈ terminalStatuses → statusOf (change item) ∈ terminalStatuses) :
    Terminal (updateExisting fault row change).table := by
  obtain ⟨item, rfl, terminal⟩ := ended
  cases fault with
  | lost => exact ⟨item, rfl, terminal⟩
  | none | unacked | retried => exact ⟨_, rfl, kept item terminal⟩

/-- Only the spawner's update takes a row out of a terminal status. -/
theorem Terminal.writeRow {update : RowUpdate} (ended : Terminal row)
    (lost : ∀ queueUrl poolId, update = .spawn queueUrl poolId → fault = .lost)
    (written : writeRow sessionId fault row update = some after) : Terminal after := by
  cases update with
  | disconnect now =>
      cases written
      refine ended.updateExisting fun item _ => ?_
      rw [statusOf_disconnect]
      decide
  | spawn queueUrl poolId =>
      cases written
      cases lost queueUrl poolId rfl
      obtain ⟨item, rfl, terminal⟩ := ended
      exact ⟨item, rfl, terminal⟩
  | pass tokens audioUpto now =>
      obtain ⟨item, -, rfl⟩ := Option.map_eq_some_iff.mp written
      refine ended.updateExisting fun item terminal => ?_
      rw [statusOf_pass]
      exact terminal
  | final status audioUpto now =>
      simp only [AdminStop.writeRow] at written
      split at written
      · rename_i ending
        obtain ⟨item, -, rfl⟩ := Option.map_eq_some_iff.mp written
        refine ended.updateExisting fun item _ => ?_
        rw [statusOf_final]
        exact List.mem_append_right _ ending
      · cases written

theorem MarkedDisconnected.watchSees (marked : MarkedDisconnected row) :
    AdminStop.watchSees row = true := by
  obtain ⟨item, rfl, disconnected⟩ := marked
  rw [AdminStop.watchSees, disconnected]
  decide

end Rows

/-- The condition on one step under which a stop sticks: a row that is over meets no
`$connect` and no spawner update, `block-user-sessions` finds the session or the row is
over, and a poll after the report finds the row disconnected. -/
def LetsStop (state : State) : Action → Prop
  | .connect _ fault | .write (.spawn _ _) fault => Terminal state.row → fault = .lost
  | .query _ answered listed =>
      answered = true → (∃ status ∈ listed, status ∈ blockable) ∨ Terminal state.row
  | .poll _ answered => answered = true → state.reported = true → MarkedDisconnected state.row
  | _ => True

instance (state : State) (action : Action) : Decidable (LetsStop state action) := by
  unfold LetsStop
  split <;> infer_instance

/-- A poll since the report has set the event. -/
def Watcher.Informed (watcher : Watcher) : Prop :=
  watcher.pollsSince = 0 ∨ (watcher.pollsSince = 1 ∧ watcher.event = true)

theorem Watcher.Informed.poll {watcher : Watcher} {row : Option Item} {answered reported : Bool}
    (informed : watcher.Informed) (watching : watcher.Watching)
    (marked : answered = true → reported = true → MarkedDisconnected row) :
    (watcher.poll row answered reported).Informed := by
  have unpolled : watcher.pollsSince = 0 := by
    rcases informed with none | ⟨-, event⟩
    · exact none
    · rw [watching.1] at event
      cases event
  cases answered with
  | false => exact informed
  | true =>
      cases reported with
      | false => exact Or.inl unpolled
      | true =>
          refine Or.inr ⟨?_, (marked rfl rfl).watchSees⟩
          simp only [Watcher.poll, if_true, unpolled]

/-! ### The requests -/

theorem submitted_progress (operation : Operation) (reason : String) :
    (Request.submitted operation reason).progress ≠ .settling := by
  unfold Request.submitted
  dsimp only
  split
  · exact Progress.noConfusion
  · cases operation <;> exact Progress.noConfusion

/-- The block handler goes past its query without an update only for a session it does
not list. -/
theorem query_progress {request : Request} {answered : Bool} {listed : Option String}
    (reached : (request.query answered listed).progress = .settling ∨
      (request.query answered listed).progress = .succeeded) :
    answered = true ∧ ¬∃ status ∈ listed, status ∈ blockable := by
  unfold Request.query at reached
  dsimp only at reached
  split at reached
  · rename_i answers
    split at reached
    · rcases reached with equal | equal <;> cases equal
    · rename_i unlisted
      exact ⟨answers, unlisted⟩
  · rcases reached with equal | equal <;> cases equal

theorem updated_progress {request : Request} {reply : Reply}
    (reached : (request.updated reply).progress = .settling ∨
      (request.updated reply).progress = .succeeded) : reply = .ok := by
  unfold Request.updated at reached
  cases reply with
  | ok => rfl
  | conditionalCheckFailed => rcases reached with equal | equal <;> cases equal
  | failed => rcases reached with equal | equal <;> cases equal

/-- The stop sticks in this state. -/
structure Sticks (state : State) : Prop where
  ended : state.reported = true → Terminal state.row
  settling : state.requests.All fun _ request => request.progress = .settling → Terminal state.row
  informed : state.watchers.All fun _ watcher => watcher.Informed

variable {state : State}

/-- A write that keeps a terminal row terminal lets the stop stick. -/
theorem Sticks.setRow (sticks : Sticks state) {row : Option Item}
    (kept : Terminal state.row → Terminal row) : Sticks { state with row } :=
  ⟨fun reported => kept (sticks.ended reported),
    sticks.settling.mono fun _ _ settled settling => kept (settled settling), sticks.informed⟩

theorem Sticks.setWatcher (sticks : Sticks state) (container : ℕ) {watcher : Watcher}
    (informed : watcher.Informed) :
    Sticks { state with watchers := state.watchers.insert container watcher } :=
  ⟨sticks.ended, sticks.settling, sticks.informed.insert informed⟩

/-- A request may come to settle or to succeed only where the row is over. -/
theorem Sticks.advance (sticks : Sticks state) {id : ℕ} {place : Progress}
    {next : Request → Request} {after : State} (taken : state.advance id place next = some after)
    (reached : ∀ request, state.requests.lookup id = some request → request.progress = place →
      (next request).progress = .settling ∨ (next request).progress = .succeeded →
        Terminal state.row) :
    Sticks after := by
  obtain ⟨request, held, moved⟩ := Option.bind_eq_some_iff.mp taken
  split at moved
  · rename_i here
    cases moved
    refine ⟨fun reported => ?_, sticks.settling.insert fun settling => ?_, sticks.informed⟩
    · rcases (Bool.or_eq_true _ _).mp reported with before | succeeded
      · exact sticks.ended before
      · exact reached request held here (Or.inr (of_decide_eq_true succeeded))
    · exact reached request held here (Or.inl settling)
  · cases moved

/-- Every step lets the stop stick under the condition. -/
theorem step_sticks {sessionId : String} {before after : State} {action : Action}
    (sticks : Sticks before) (lets : LetsStop before action)
    (taken : step sessionId before action = some after) : Sticks after := by
  cases action with
  | connect request fault =>
      cases taken
      refine sticks.setRow fun ended => ?_
      cases lets ended
      exact ended
  | write update fault =>
      obtain ⟨row, written, rfl⟩ := Option.map_eq_some_iff.mp taken
      refine sticks.setRow fun ended => ended.writeRow ?_ written
      rintro queueUrl poolId rfl
      exact lets ended
  | startContainer container =>
      simp only [step] at taken
      split at taken
      · cases taken
      · cases taken
        exact sticks.setWatcher container (Or.inl rfl)
  | poll container answered =>
      simp only [step] at taken
      split at taken
      · cases taken
      · rename_i watcher held
        split at taken
        · rename_i watching
          cases taken
          exact sticks.setWatcher container
            ((sticks.informed container watcher held).poll watching lets)
        · cases taken
  | stopWatcher container =>
      obtain ⟨watcher, held, rfl⟩ := Option.map_eq_some_iff.mp taken
      exact sticks.setWatcher container (sticks.informed container watcher held)
  | submit id operation reason =>
      simp only [step] at taken
      split at taken
      · cases taken
      · cases taken
        refine ⟨sticks.ended, sticks.settling.insert fun settling => ?_, sticks.informed⟩
        exact absurd settling (submitted_progress operation reason)
  | read id answered =>
      refine sticks.advance taken fun request _ _ reached => ?_
      rcases reached with settling | succeeded
      · exact absurd settling (by unfold Request.read; split <;> exact Progress.noConfusion)
      · exact absurd succeeded (by unfold Request.read; split <;> exact Progress.noConfusion)
  | query id answered listed =>
      refine sticks.advance taken fun request _ _ reached => ?_
      obtain ⟨answers, unlisted⟩ := query_progress reached
      exact (lets answers).resolve_left unlisted
  | update id now fault =>
      obtain ⟨request, held, moved⟩ := Option.bind_eq_some_iff.mp taken
      have terminal : ∀ item, statusOf (request.operation.update request.reason now item) ∈
          terminalStatuses := by
        intro item
        rw [statusOf_update]
        decide
      have kept : Terminal before.row → Terminal (updateExisting fault before.row
          (request.operation.update request.reason now ·)).table :=
        fun ended => ended.updateExisting fun item _ => terminal item
      refine (sticks.setRow kept).advance moved fun _ _ _ reached => ?_
      exact terminal_of_ok terminal (updated_progress reached)
  | settle id succeeds =>
      refine sticks.advance taken fun request held here _ => ?_
      exact sticks.settling id request held here

def sampleConnect : ConnectRequest := ⟨"user", "tenant", "member", "t0", 0, none, none⟩

/-- A session with a container is killed. -/
def killRun : List Action :=
  [.connect sampleConnect .none, .write (.spawn "queue-0" 0) .none, .startContainer 0,
    .submit 0 .kill "abuse", .read 0 true, .update 0 "t1" .none, .settle 0 true]

end Panakoes.Streaming.AdminStop
