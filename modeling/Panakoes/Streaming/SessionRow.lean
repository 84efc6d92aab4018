import Mathlib.Data.Int.Notation
import Mathlib.Data.Option.Basic
import Panakoes.Foundation.ConditionalWrite

/-! # The streaming-sessions row

One DynamoDB row for each WebSocket session. The router creates it on
`$connect` and marks it on `$disconnect`, the gpu-spawner writes the frame
queue into it, and the transcriber's `LifecycleWatcher` polls it. The updates
are written as what they lead to, or `none` when their condition fails.
-/

namespace Panakoes.Streaming

open ConditionalWrite

/-- A row of the sessions table, keyed by `session_id`. -/
structure SessionRow where
  connectionId : String
  status : String
  userId : String
  tenantId : String
  role : String
  connectedAt : String
  ttlEpochSeconds : ℤ
  parentSessionId : Option String
  promptSeedText : Option String
  frameQueueUrl : Option String
  poolQueueId : Option ℤ
  disconnectedAt : Option String
  deriving DecidableEq

/-- What `$connect` takes from its event and the clock. -/
structure ConnectRequest where
  userId : String
  tenantId : String
  role : String
  now : String
  nowEpoch : ℤ
  parentSessionId : Option String
  promptSeedText : Option String
  deriving DecidableEq

/-- `_CONNECT_TTL_SECONDS`. -/
def connectTtlSeconds : ℤ := 7200

/-- `qs.get(name) or None`. -/
def nonempty (text : Option String) : Option String := text.filter (· ≠ "")

/-- The item `_route_connect` puts. -/
def connectItem (connectionId : String) (request : ConnectRequest) : SessionRow where
  connectionId := connectionId
  status := "connecting"
  userId := request.userId
  tenantId := request.tenantId
  role := request.role
  connectedAt := request.now
  ttlEpochSeconds := request.nowEpoch + connectTtlSeconds
  parentSessionId := nonempty request.parentSessionId
  promptSeedText := (nonempty request.promptSeedText).map fun text =>
    String.ofList (text.toList.take 200)
  frameQueueUrl := none
  poolQueueId := none
  disconnectedAt := none

/-- The update of `_route_disconnect`, if `attribute_exists(session_id)`. -/
def disconnectUpdate (now : String) (row : Option SessionRow) : Option SessionRow :=
  row.map fun row => { row with status := "disconnected", disconnectedAt := some now }

/-- The update of `spawn_callback`, if `attribute_exists(session_id)`. -/
def spawnUpdate (queueUrl : String) (poolId : ℤ) (row : Option SessionRow) : Option SessionRow :=
  row.map fun row =>
    { row with
      frameQueueUrl := some queueUrl
      poolQueueId := some poolId
      status := "spawning-gpu" }

/-- The characters that `str.strip` removes. -/
def isPySpace (char : Char) : Bool :=
  let code := char.toNat
  (9 ≤ code ∧ code ≤ 13) ∨ (28 ≤ code ∧ code ≤ 32) ∨ code = 133 ∨ code = 160 ∨ code = 5760 ∨
    (8192 ≤ code ∧ code ≤ 8202) ∨ code = 8232 ∨ code = 8233 ∨ code = 8239 ∨ code = 8287 ∨
    code = 12288

/-- `status.strip().lower()`. Beyond ASCII, `lower` yields no letter of the
status it is compared with, so the ASCII letters are all that matter. -/
def normalizeStatus (status : String) : List Char :=
  let stripped := (status.toList.dropWhile isPySpace).reverse.dropWhile isPySpace
  stripped.reverse.map Char.toLower

/-- Whether a poll of the lifecycle watcher sees a disconnect: the status says
so, or the row is gone. -/
def seesDisconnect : Option SessionRow → Bool
  | none => true
  | some row => normalizeStatus row.status = "disconnected".toList

/-- The row is there and marked disconnected. -/
def Disconnected (row : Option SessionRow) : Prop := row.map SessionRow.status = some "disconnected"

instance (row : Option SessionRow) : Decidable (Disconnected row) :=
  inferInstanceAs (Decidable (_ = _))

variable {row after : Option SessionRow}

theorem Disconnected.seesDisconnect (marked : Disconnected row) :
    Streaming.seesDisconnect row = true := by
  obtain ⟨held, rfl, status⟩ := Option.map_eq_some_iff.mp marked
  simp only [Streaming.seesDisconnect, status]
  decide

theorem disconnected_of_update {now : String} {updated : SessionRow}
    (held : disconnectUpdate now row = some updated) : Disconnected (some updated) := by
  obtain ⟨_, _, rfl⟩ := Option.map_eq_some_iff.mp held
  rfl

end Panakoes.Streaming
