import Mathlib.Data.Rat.Defs
import Panakoes.Foundation.Table

/-! # The session store of the session manager

Records of sessions by their identifier, with the status machine of the service. A read is
filtered by the owner, and an update is conditioned on the owner.
-/

namespace Panakoes.SessionManager

/-- `SessionStatus`. -/
inductive SessionStatus where
  | starting
  | active
  | paused
  | completed
  | errored
  deriving DecidableEq

/-- The text of the status. -/
def SessionStatus.text : SessionStatus → String
  | .starting => "starting"
  | .active => "active"
  | .paused => "paused"
  | .completed => "completed"
  | .errored => "errored"

/-- `ALLOWED_TRANSITIONS`. -/
def allowedTransitions : SessionStatus → List SessionStatus
  | .starting => [.active, .errored]
  | .active => [.paused, .completed, .errored]
  | .paused => [.active, .completed, .errored]
  | .completed => []
  | .errored => []

/-- `is_terminal`. -/
def isTerminal (status : SessionStatus) : Bool := [SessionStatus.completed, .errored].contains status

/-- `is_allowed_transition`. -/
def isAllowedTransition (fromStatus toStatus : SessionStatus) : Bool :=
  (allowedTransitions fromStatus).contains toStatus

/-- `SessionRecord`. -/
structure SessionRecord where
  sessionId : String
  userId : String
  status : SessionStatus
  language : String
  gpuInstanceId : Option String
  createdAt : ℚ
  updatedAt : ℚ
  expiresAt : ℤ

/-- `updates`. -/
structure Updates where
  updatedAt : ℚ
  status : Option SessionStatus
  gpuInstanceId : Option String

/-- The record with the updates set. -/
def Updates.apply (updates : Updates) (record : SessionRecord) : SessionRecord :=
  { record with
    updatedAt := updates.updatedAt
    status := updates.status.getD record.status
    gpuInstanceId := updates.gpuInstanceId.or record.gpuInstanceId }

/-- The sessions table. -/
abbrev Sessions := Table String SessionRecord

namespace Sessions

/-- `SessionStore.get`. -/
def get (sessions : Sessions) (userId sessionId : String) : Option SessionRecord :=
  (sessions.lookup sessionId).filter fun record => record.userId = userId

/-- The `update_item` of `SessionStore.update`: the table and the new record, or `none` when the
owner condition fails. -/
def updateItem (sessions : Sessions) (userId sessionId : String) (updates : Updates) :
    Option (Sessions × SessionRecord) :=
  match sessions.lookup sessionId with
  | some record =>
      if record.userId = userId then
        some (sessions.insert sessionId (updates.apply record), updates.apply record)
      else none
  | none => none

variable {sessions written : Sessions} {userId sessionId : String} {updates : Updates}
  {updated : SessionRecord}

/-- An update that is applied sets the updates in the record of its owner. -/
theorem updateItem_eq_some
    (applied : sessions.updateItem userId sessionId updates = some (written, updated)) :
    ∃ record, sessions.lookup sessionId = some record ∧ record.userId = userId ∧
      updated = updates.apply record ∧ written = sessions.insert sessionId updated := by
  unfold updateItem at applied
  split at applied
  · rename_i record held
    split at applied
    · rename_i owner
      cases applied
      exact ⟨record, held, owner, rfl, rfl⟩
    · cases applied
  · cases applied

end Sessions

variable {fromStatus toStatus : SessionStatus}

/-- No transition leaves a terminal status. -/
theorem not_isAllowedTransition_of_isTerminal (terminal : isTerminal fromStatus = true) :
    isAllowedTransition fromStatus toStatus = false := by
  cases fromStatus with
  | completed | errored => rfl
  | starting | active | paused => cases terminal

end Panakoes.SessionManager
