import Panakoes.SessionManager.UpdateSession
import Panakoes.Streaming.SessionsTable

/-! # Items of the session store

The session store over the items of the table: what it makes of an item, the page of a user, and
an update. The routes answer from it.
-/

namespace Panakoes.SessionManager

open DynamoItem Streaming

/-- The status with the text. -/
def SessionStatus.ofText? (text : String) : Option SessionStatus :=
  [SessionStatus.starting, .active, .paused, .completed, .errored].find? (·.text = text)

/-- The fields of the record, if each of them is valid. -/
def SessionRecord.fields? (pydantic : Pydantic) (fields : Item) : Option SessionRecord := do
  let sessionId ← str? fields "session_id"
  let userId ← str? fields "user_id"
  let status ← (str? fields "status").bind SessionStatus.ofText?
  let language ← str? fields "language"
  let gpuInstanceId ← optionalStr? fields "gpu_instance_id"
  let createdAt ← (fields.lookup "created_at").bind pydantic.datetime
  let updatedAt ← (fields.lookup "updated_at").bind pydantic.datetime
  let expiresAt ← (fields.lookup "expires_at").bind pydantic.int
  return ⟨sessionId, userId, status, language, gpuInstanceId, createdAt, updatedAt, expiresAt⟩

/-- `SessionRecord.model_validate`. -/
def SessionRecord.modelValidate (pydantic : Pydantic) (fields : Item) :
    Except SessionReadError SessionRecord :=
  match SessionRecord.fields? pydantic fields with
  | some record => .ok record
  | none => .error .validationError

/-- `_to_dynamo`. -/
def SessionRecord.toDynamo (isoformat : ℚ → String) (record : SessionRecord) : Item :=
  [("session_id", .str record.sessionId), ("user_id", .str record.userId),
    ("status", .str record.status.text), ("language", .str record.language),
    ("created_at", .str (isoformat record.createdAt)),
    ("updated_at", .str (isoformat record.updatedAt)), ("ttl_epoch_seconds", .int record.expiresAt)] ++
    (record.gpuInstanceId.map fun gpuInstanceId =>
      ("gpu_instance_id", PyJson.str gpuInstanceId)).toList

/-- `target_key`. -/
def targetKey (key : String) : String := if key = "ttl_epoch_seconds" then "expires_at" else key

/-- `_from_dynamo`. The item has its attributes in the opposite order of the loop's, so that of two
with one target the loop keeps the first. -/
def SessionRecord.fromDynamo (pydantic : Pydantic) (item : Item) :
    Except SessionReadError SessionRecord :=
  SessionRecord.modelValidate pydantic
    ((cleaned item).map fun entry => (targetKey entry.1, entry.2))

/-- Renaming an attribute leaves the others. -/
theorem lookup_targetKey {fields : Item} {name : String}
    (other : name ≠ "expires_at" ∧ name ≠ "ttl_epoch_seconds") :
    (fields.map fun entry => (targetKey entry.1, entry.2)).lookup name = fields.lookup name := by
  induction fields with
  | nil => rfl
  | cons entry rest ih =>
      obtain ⟨key, value⟩ := entry
      rw [List.map_cons, List.lookup_cons, List.lookup_cons, ih]
      have same : (name == targetKey key) = (name == key) := by
        unfold targetKey
        split
        · rename_i renamed
          rw [renamed, beq_eq_false_iff_ne.mpr other.1, beq_eq_false_iff_ne.mpr other.2]
        · rfl
      rw [same]

/-- Renaming an attribute leaves the texts of the others. -/
theorem str?_renamed {item : Item} {name : String}
    (other : name ≠ "expires_at" ∧ name ≠ "ttl_epoch_seconds") :
    str? ((cleaned item).map fun entry => (targetKey entry.1, entry.2)) name = str? item name := by
  rw [← str?_cleaned item]
  unfold str?
  rw [lookup_targetKey other]

theorem SessionStatus.text_of_ofText? {text : String} {status : SessionStatus}
    (known : SessionStatus.ofText? text = some status) : status.text = text := by
  have found := List.find?_some known
  exact of_decide_eq_true found

/-- A record has the texts of its item. -/
theorem texts_of_fromDynamo {pydantic : Pydantic} {item : Item} {record : SessionRecord}
    (read : SessionRecord.fromDynamo pydantic item = .ok record) :
    str? item "session_id" = some record.sessionId ∧ OwnedBy record.userId item ∧
      str? item "status" = some record.status.text ∧ str? item "language" = some record.language := by
  unfold SessionRecord.fromDynamo SessionRecord.modelValidate at read
  split at read
  · rename_i found fields
    cases read
    unfold SessionRecord.fields? at fields
    simp only [Option.bind_eq_bind, Option.bind_eq_some_iff] at fields
    obtain ⟨_, id, _, owner, _, ⟨text, status, known⟩, _, language, _, -, _, -, _, -, _, -, same⟩ :=
      fields
    cases same
    rw [str?_renamed (by decide)] at id owner status language
    rw [SessionStatus.text_of_ofText? known]
    exact ⟨id, owner, status, language⟩
  · cases read

namespace SessionStore

variable (pydantic : Pydantic) (index : UserSessionsIndex) (table : SessionsTable)

/-- `SessionStore.get`. -/
def get (userId sessionId : String) : Except SessionReadError (Option SessionRecord) :=
  match table.lookup sessionId with
  | none => .ok none
  | some item =>
      (SessionRecord.fromDynamo pydantic item).map fun record =>
        if record.userId ≠ userId then none else some record

/-- The start key of `SessionStore.list_for_user`. -/
def startKey (userId : String) (cursor : Option String) :
    Except SessionReadError (Option IndexKey) :=
  match cursor with
  | none => .ok none
  | some sessionId =>
      match table.lookup sessionId with
      | none => .ok none
      | some anchor =>
          if OwnedBy userId anchor then
            match anchor.lookup "created_at" with
            | none => .error .keyError
            | some (.str createdAt) => .ok (some ⟨createdAt, sessionId⟩)
            | some _ => .error .clientError
          else .ok none

/-- `SessionStore.list_for_user`, of which the query stops at `stop`. -/
def listForUser (userId : String) (cursor : Option String) (stop : Option IndexKey) :
    Except SessionReadError (List SessionRecord × Option String) := do
  let start ← startKey table userId cursor
  let items ← (index.query table userId start stop).mapM fun row =>
    SessionRecord.fromDynamo pydantic row.item
  return (items, stop.map IndexKey.sessionId)

/-- The attributes of `updates`. -/
def attributes (updatedAt : String) (request : UpdateSessionRequest) : Item :=
  [("updated_at", .str updatedAt)] ++
    (request.status.map fun status => ("status", PyJson.str status.text)).toList ++
    (request.gpuInstanceId.map fun gpuInstanceId => ("gpu_instance_id", .str gpuInstanceId)).toList

/-- The item with the attributes set. -/
def setAll (item updates : Item) : Item :=
  updates.foldl (fun item update => PyJson.set item update.1 update.2) item

/-- What `SessionStore.update` raises. -/
inductive UpdateError where
  | sessionNotFound
  | ownerMismatch
  | read (error : SessionReadError)

/-- `SessionStore.update`: the record it returns, and the table it leaves. -/
def update (userId sessionId : String) (updates : Item) :
    SessionsTable × Except UpdateError SessionRecord :=
  match table.lookup sessionId with
  | none => (table, .error .sessionNotFound)
  | some item =>
      if OwnedBy userId item then
        (table.insert sessionId (setAll item updates),
          (SessionRecord.fromDynamo pydantic (setAll item updates)).mapError .read)
      else (table, .error .ownerMismatch)

end SessionStore

/-! ## The routes -/

/-- What a caller gets. `raised` is a status 500. -/
inductive SessionReply where
  | record (record : SessionRecord)
  | page (items : List SessionRecord) (nextCursor : Option String)
  | refused (statusCode : ℕ) (detail : String)
  | raised

/-- `_not_found`. -/
def sessionNotFound : SessionReply := .refused 404 "session not found"

variable (pydantic : Pydantic) (index : UserSessionsIndex) (table : SessionsTable)

/-- `GET /sessions/{session_id}`. -/
def getSession (userId sessionId : String) : SessionReply :=
  match SessionStore.get pydantic table userId sessionId with
  | .error _ => .raised
  | .ok none => sessionNotFound
  | .ok (some record) => .record record

/-- `GET /sessions`. -/
def listSessions (userId : String) (cursor : Option String) (stop : Option IndexKey) :
    SessionReply :=
  match SessionStore.listForUser pydantic index table userId cursor stop with
  | .error _ => .raised
  | .ok (items, nextCursor) => .page items nextCursor

/-- `PATCH /sessions/{session_id}` at the time `now`, with the table it leaves. -/
def updateSession (userId sessionId : String) (request : UpdateSessionRequest) (now : String) :
    SessionsTable × SessionReply :=
  if request.status = none ∧ request.gpuInstanceId = none then
    (table, .refused 422 "at least one of 'status' or 'gpu_instance_id' must be provided")
  else
    match SessionStore.get pydantic table userId sessionId with
    | .error _ => (table, .raised)
    | .ok none => (table, sessionNotFound)
    | .ok (some current) =>
        match request.status.filter fun status => ¬ isAllowedTransition current.status status with
        | some status =>
            (table, .refused 409
              s!"illegal status transition: {current.status.text} -> {status.text}")
        | none =>
            let updates := SessionStore.attributes now request
            match SessionStore.update pydantic table userId sessionId updates with
            | (written, .ok updated) => (written, .record updated)
            | (written, .error (.read _)) => (written, .raised)
            | (written, .error _) => (written, sessionNotFound)

end Panakoes.SessionManager
