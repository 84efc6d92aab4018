import Panakoes.Foundation.Run
import Panakoes.QueryApi.SessionReader
import Panakoes.SessionManager.SessionItems
import Panakoes.Streaming.AdminStop

/-! # What the writers of sessions write, and what is read of it

Many services write to the table of streaming sessions, each with attributes and statuses of its
own: the session manager, the router, the spawner, the transcriber, the batch worker and the admin
API. The session manager and the query API read all of it. They read what the session manager has
made, and no status but the two that both of them know.
-/

namespace Panakoes.QueryApi.SessionWriters

open DynamoItem Streaming Transition
open SessionManager (UpdateSessionRequest)
open TranscriberStream (AsrToken endStatuses)

/-! ## The writers -/

/-- Pydantic, and the texts that the writers make of times, which it reads. -/
structure Formats extends Pydantic where
  isoformat : ℚ → String
  nowIso : ℚ → String
  datetime_isoformat : ∀ time, (datetime (.str (isoformat time))).isSome
  datetime_nowIso : ∀ time, (datetime (.str (nowIso time))).isSome
  int_int : ∀ value, int (.int value) = some value

/-- A write to a session. The statuses of the batch worker are `active`, `completed` and
`errored`. -/
inductive Write where
  | create (userId language : String) (now : ℚ) (sessionTtlSeconds : ℤ)
  | patch (userId : String) (request : UpdateSessionRequest) (now : ℚ)
  | softDelete (userId : String) (now : ℚ)
  | connect (request : ConnectRequest)
  | disconnect (now : String)
  | spawn (queueUrl : String) (poolId : ℤ)
  | pass (tokens : List AsrToken) (audioUpto now : ℚ)
  | final (status : String) (audioUpto now : ℚ)
  | admin (operation : AdminStop.Operation) (reason now : String)
  | batch (status : String)

/-- The record that `create_session` puts. -/
def createdRecord (sessionId userId language : String) (now : ℚ) (sessionTtlSeconds : ℤ) :
    SessionManager.SessionRecord :=
  ⟨sessionId, userId, .starting, language, none, now, now, now.floor + sessionTtlSeconds⟩

/-- The attributes that `delete_session` sets. -/
def deletedAttributes (formats : Formats) (now : ℚ) : Item :=
  [("status", .str "errored"), ("updated_at", .str (formats.isoformat now)),
    ("ttl_epoch_seconds", .int now.floor)]

/-- The transition that a request asks for is allowed, and it asks for something. -/
def Admits (current : SessionManager.SessionRecord) (request : UpdateSessionRequest) : Prop :=
  ¬ (request.status = none ∧ request.gpuInstanceId = none) ∧
    ∀ status ∈ request.status, SessionManager.isAllowedTransition current.status status

instance (current : SessionManager.SessionRecord) (request : UpdateSessionRequest) :
    Decidable (Admits current request) :=
  inferInstanceAs (Decidable (_ ∧ _))

/-- The item after a write, or `none` when the writer refuses it or its condition fails. An update
without a condition makes the item. The key of the batch worker is `id`, which is not the key of the
table, so that DynamoDB rejects its update. -/
def Write.item (formats : Formats) (sessionId : String) (item : Option Item) :
    Write → Option (Option Item)
  | .create userId language now sessionTtlSeconds =>
      if item.isSome then none
      else
        some (some ((createdRecord sessionId userId language now sessionTtlSeconds).toDynamo
          formats.isoformat))
  | .patch userId request now =>
      item.bind fun held =>
        match SessionManager.SessionRecord.fromDynamo formats.toPydantic held with
        | .error _ => none
        | .ok current =>
            if current.userId = userId ∧ Admits current request then
              some (some (SessionManager.SessionStore.setAll held
                (SessionManager.SessionStore.attributes (formats.isoformat now) request)))
            else none
  | .softDelete userId now =>
      item.bind fun held =>
        match SessionManager.SessionRecord.fromDynamo formats.toPydantic held with
        | .error _ => none
        | .ok current =>
            if current.userId = userId then
              some (some (SessionManager.SessionStore.setAll held (deletedAttributes formats now)))
            else none
  | .connect request => some (some ((connectItem sessionId request).attributes sessionId))
  | .disconnect now => item.map fun held => some (applyUpdate sessionId held (.disconnect now))
  | .spawn queueUrl poolId =>
      item.map fun held => some (applyUpdate sessionId held (.spawn queueUrl poolId))
  | .pass tokens audioUpto now =>
      if (tokens.map AsrToken.text).filter (· ≠ "") = [] then none
      else
        some (some (applyUpdate sessionId (item.getD [("session_id", .str sessionId)])
          (.pass tokens audioUpto (formats.nowIso now))))
  | .final status audioUpto now =>
      if status ∈ endStatuses.map Prod.snd then
        some (some (applyUpdate sessionId (item.getD [("session_id", .str sessionId)])
          (.final status audioUpto (formats.nowIso now))))
      else none
  | .admin operation reason now => item.map fun held => some (operation.update reason now held)
  | .batch _ => some item

/-- The status that the writer writes. -/
def Write.status : Write → Option String
  | .create .. => some "starting"
  | .patch _ request _ => request.status.map SessionManager.SessionStatus.text
  | .softDelete .. => some "errored"
  | .connect _ => some "connecting"
  | .disconnect _ => some "disconnected"
  | .spawn .. => some "spawning-gpu"
  | .pass .. => none
  | .final status _ _ => some status
  | .admin .. => some "errored"
  | .batch status => some status

/-- A write to the session with the id. -/
structure Action where
  sessionId : String
  write : Write

/-- One step of the writers. -/
def step (formats : Formats) (table : SessionsTable) (action : Action) : Option SessionsTable :=
  (action.write.item formats action.sessionId (table.lookup action.sessionId)).map fun item =>
    match item with
    | none => table
    | some item => table.insert action.sessionId item

/-! ## What has been written to a session -/

/-- The writer that put the item of a session. -/
inductive Origin where
  | sessionManager
  | router
  deriving DecidableEq

/-- What a history of writes says of a session: who put its item, the last status that an applied
write has set since, and the last one that any writer has written. -/
structure History where
  origin : Option Origin
  stored : Option String
  latest : Option String
  deriving DecidableEq

/-- The history with one write more. -/
def History.add (history : History) (write : Write) : History where
  origin :=
    match write with
    | .create .. => some .sessionManager
    | .connect _ => some .router
    | _ => history.origin
  stored :=
    match write with
    | .batch _ => history.stored
    | _ => write.status.or history.stored
  latest := write.status.or history.latest

/-- The history of a session in a run. -/
def historyOf (sessionId : String) (actions : List Action) : History :=
  (actions.filter (·.sessionId = sessionId)).foldl (fun history action => history.add action.write)
    ⟨none, none, none⟩

/-- No one has put the session, or the session manager was the last to put it, and the last status
is in its item and one that both readers know. -/
def History.Legible (history : History) : Prop :=
  history.origin = none ∨ history.origin = some .sessionManager ∧ history.stored = history.latest ∧
    (history.latest = some "starting" ∨ history.latest = some "active")

instance (history : History) : Decidable history.Legible :=
  inferInstanceAs (Decidable (_ ∨ _))

/-! ## What is read -/

variable (formats : Formats) (index : UserSessionsIndex) (latest : String → Option String)

/-- The sessions of a page with their latest statuses. -/
def latestOf (rows : List IndexRow) : List (String × Option String) :=
  rows.map fun row => (row.key.sessionId, latest row.key.sessionId)

/-- Both services return every session of the user with its latest status, by its id and on every
page. -/
structure ReadsBack (table : SessionsTable) (userId : String) : Prop where
  get : ∀ sessionId item, table.lookup sessionId = some item → OwnedBy userId item →
    ∃ managed record, SessionManager.SessionStore.get formats.toPydantic table userId sessionId =
        .ok (some managed) ∧
      SessionReader.get formats.toPydantic table userId sessionId = .ok (some record) ∧
        latest sessionId = some managed.status.text ∧ latest sessionId = some record.status.text
  indexed : ∀ sessionId item, table.lookup sessionId = some item → OwnedBy userId item →
    ∃ row ∈ index.rows table userId, row.key.sessionId = sessionId
  list : ∀ cursor stop, ∃ start managed records,
    SessionManager.SessionStore.startKey table userId cursor = .ok start ∧
      SessionManager.SessionStore.listForUser formats.toPydantic index table userId cursor stop =
        .ok (managed, stop.map IndexKey.sessionId) ∧
      SessionReader.listForUser formats.toPydantic index table userId cursor stop =
        .ok (records, stop.map IndexKey.sessionId) ∧
      (managed.map fun record => (record.sessionId, some record.status.text)) =
        latestOf latest (index.query table userId start stop) ∧
      (records.map fun record => (record.sessionId, some record.status.text)) =
        latestOf latest (index.query table userId start stop)

/-! ## Items of the session manager and of the router -/

variable {formats index latest} {item : Item} {sessionId key name : String} {value : PyJson}

theorem lookup_set : (PyJson.set item key value).lookup name =
    if name = key then some value else item.lookup name := by
  rw [PyJson.set, PyJson.lookup_put]

/-- An attribute is a text. -/
def IsStr (value : PyJson) : Prop := ∃ text, value = .str text

/-- An attribute is a text that Pydantic reads as a time. -/
def IsTime (formats : Formats) (value : PyJson) : Prop :=
  ∃ text, value = .str text ∧ (formats.datetime (.str text)).isSome

/-- An update may give the attribute the value. -/
structure Fits (formats : Formats) (key : String) (value : PyJson) : Prop where
  other : key ∉ ["session_id", "user_id", "language", "created_at", "expires_at"]
  text : key ∈ ["status", "gpu_instance_id"] → IsStr value
  time : key ∈ ["updated_at", "ended_at"] → IsTime formats value
  number : key = "ttl_epoch_seconds" → ∃ number, value = .int number

/-- An item that the session manager has put, after any updates. -/
structure Managed (formats : Formats) (sessionId : String) (item : Item) : Prop where
  sessionId : item.lookup "session_id" = some (.str sessionId)
  owner : ∃ userId, item.lookup "user_id" = some (.str userId)
  status : ∃ value ∈ item.lookup "status", IsStr value
  language : ∃ value ∈ item.lookup "language", IsStr value
  gpuInstanceId : ∀ value ∈ item.lookup "gpu_instance_id", IsStr value
  createdAt : ∃ value ∈ item.lookup "created_at", IsTime formats value
  updatedAt : ∃ value ∈ item.lookup "updated_at", IsTime formats value
  endedAt : ∀ value ∈ item.lookup "ended_at", IsTime formats value
  unrenamed : item.lookup "expires_at" = none
  ttl : ∃ number, item.lookup "ttl_epoch_seconds" = some (.int number)

/-- An item that the router has put, after any updates. -/
structure Connected (item : Item) : Prop where
  owner : ∃ userId, item.lookup "user_id" = some (.str userId)
  language : item.lookup "language" = none

/-- Updates leave an item of the session manager one. -/
theorem Managed.set (managed : Managed formats sessionId item) (fits : Fits formats key value) :
    Managed formats sessionId (PyJson.set item key value) := by
  have other := fits.other
  simp only [List.mem_cons, List.not_mem_nil, or_false, not_or] at other
  obtain ⟨notId, notUser, notLanguage, notCreated, notExpires⟩ := other
  constructor
  · rw [lookup_set, if_neg (Ne.symm notId)]
    exact managed.sessionId
  · rw [lookup_set, if_neg (Ne.symm notUser)]
    exact managed.owner
  · rw [lookup_set]
    split
    · rename_i same
      exact ⟨value, rfl, fits.text (by simp [← same])⟩
    · exact managed.status
  · rw [lookup_set, if_neg (Ne.symm notLanguage)]
    exact managed.language
  · rw [lookup_set]
    split
    · rename_i same
      rintro _ ⟨rfl⟩
      exact fits.text (by simp [← same])
    · exact managed.gpuInstanceId
  · rw [lookup_set, if_neg (Ne.symm notCreated)]
    exact managed.createdAt
  · rw [lookup_set]
    split
    · rename_i same
      exact ⟨value, rfl, fits.time (by simp [← same])⟩
    · exact managed.updatedAt
  · rw [lookup_set]
    split
    · rename_i same
      rintro _ ⟨rfl⟩
      exact fits.time (by simp [← same])
    · exact managed.endedAt
  · rw [lookup_set, if_neg (Ne.symm notExpires)]
    exact managed.unrenamed
  · rw [lookup_set]
    split
    · rename_i same
      obtain ⟨number, rfl⟩ := fits.number same.symm
      exact ⟨number, rfl⟩
    · exact managed.ttl

theorem Connected.set (connected : Connected item) (fits : Fits formats key value) :
    Connected (PyJson.set item key value) := by
  have other := fits.other
  simp only [List.mem_cons, List.not_mem_nil, or_false, not_or] at other
  obtain ⟨-, notUser, notLanguage, -, -⟩ := other
  constructor
  · rw [lookup_set, if_neg (Ne.symm notUser)]
    exact connected.owner
  · rw [lookup_set, if_neg (Ne.symm notLanguage)]
    exact connected.language

/-! ## Updates -/

/-- The item after updates that give fitting values. -/
inductive Updates (formats : Formats) (item : Item) : Item → Prop
  | refl : Updates formats item item
  | set {after : Item} {key : String} {value : PyJson} (updates : Updates formats item after)
      (fits : Fits formats key value) : Updates formats item (PyJson.set after key value)

variable {after : Item} {text : String}

theorem Updates.managed (updates : Updates formats item after)
    (managed : Managed formats sessionId item) : Managed formats sessionId after := by
  induction updates with
  | refl => exact managed
  | set _ fits ih => exact ih.set fits

theorem Updates.connected (updates : Updates formats item after) (connected : Connected item) :
    Connected after := by
  induction updates with
  | refl => exact connected
  | set _ fits ih => exact ih.set fits

/-- Updates give an item no owner. -/
theorem Updates.unowned (updates : Updates formats item after)
    (unowned : item.lookup "user_id" = none) : after.lookup "user_id" = none := by
  induction updates with
  | refl => exact unowned
  | set _ fits ih =>
      have other := fits.other
      simp only [List.mem_cons, List.not_mem_nil, or_false, not_or] at other
      rw [lookup_set, if_neg (Ne.symm other.2.1)]
      exact ih

theorem fits_other (other : key ∉ ["session_id", "user_id", "language", "created_at", "expires_at",
      "status", "gpu_instance_id", "updated_at", "ended_at", "ttl_epoch_seconds"]) :
    Fits formats key value := by
  simp only [List.mem_cons, List.not_mem_nil, or_false, not_or] at other
  obtain ⟨id, user, language, created, expires, status, gpu, updated, ended, ttl⟩ := other
  refine ⟨?_, ?_, ?_, fun same => absurd same ttl⟩
  · simp [id, user, language, created, expires]
  · intro named
    simp [status, gpu] at named
  · intro named
    simp [updated, ended] at named

theorem fits_text (named : key = "status" ∨ key = "gpu_instance_id") :
    Fits formats key (.str text) := by
  rcases named with rfl | rfl <;>
    exact ⟨by decide, fun _ => ⟨text, rfl⟩, fun named => absurd named (by decide),
      fun same => absurd same (by decide)⟩

theorem fits_time (named : key = "updated_at" ∨ key = "ended_at")
    (read : (formats.datetime (.str text)).isSome) : Fits formats key (.str text) := by
  rcases named with rfl | rfl <;>
    exact ⟨by decide, fun named => absurd named (by decide), fun _ => ⟨text, rfl, read⟩,
      fun same => absurd same (by decide)⟩

theorem fits_number (number : ℤ) : Fits formats "ttl_epoch_seconds" (.int number) :=
  ⟨by decide, fun named => absurd named (by decide), fun named => absurd named (by decide),
    fun _ => ⟨number, rfl⟩⟩

/-- What an update of a writer does to an item: fitting values, and the status of the writer. -/
structure UpdatedBy (formats : Formats) (write : Write) (item after : Item) : Prop where
  updates : Updates formats item after
  status : after.lookup "status" = (write.status.map PyJson.str).or (item.lookup "status")

/-- The text that an item is given last for its status is the status. -/
theorem lookup_status_set (other : key ≠ "status") :
    (PyJson.set item key value).lookup "status" = item.lookup "status" := by
  rw [lookup_set, if_neg (Ne.symm other)]

theorem lookup_status_self :
    (PyJson.set item "status" value).lookup "status" = some value := by
  rw [lookup_set, if_pos rfl]

theorem updatedBy_patch (userId : String) (request : UpdateSessionRequest) (now : ℚ) :
    UpdatedBy formats (.patch userId request now) item
      (SessionManager.SessionStore.setAll item
        (SessionManager.SessionStore.attributes (formats.isoformat now) request)) := by
  have stamped : Updates formats item
      (PyJson.set item "updated_at" (.str (formats.isoformat now))) :=
    Updates.refl.set (fits_time (Or.inl rfl) (formats.datetime_isoformat now))
  obtain ⟨status, gpuInstanceId⟩ := request
  cases status with
  | none =>
      cases gpuInstanceId with
      | none => exact ⟨stamped, @lookup_status_set _ "updated_at" _ (by decide)⟩
      | some gpuInstanceId =>
          exact ⟨stamped.set (fits_text (Or.inr rfl)),
            (@lookup_status_set _ "gpu_instance_id" _ (by decide)).trans
              (@lookup_status_set _ "updated_at" _ (by decide))⟩
  | some status =>
      have marked : Updates formats item
          (PyJson.set (PyJson.set item "updated_at" (.str (formats.isoformat now))) "status"
            (.str status.text)) := stamped.set (fits_text (Or.inl rfl))
      cases gpuInstanceId with
      | none => exact ⟨marked, lookup_status_self⟩
      | some gpuInstanceId =>
          exact ⟨marked.set (fits_text (Or.inr rfl)),
            (@lookup_status_set _ "gpu_instance_id" _ (by decide)).trans lookup_status_self⟩

theorem updatedBy_softDelete (userId : String) (now : ℚ) :
    UpdatedBy formats (.softDelete userId now) item
      (SessionManager.SessionStore.setAll item (deletedAttributes formats now)) where
  updates := ((Updates.refl.set (fits_text (Or.inl rfl))).set
    (fits_time (Or.inl rfl) (formats.datetime_isoformat now))).set (fits_number now.floor)
  status := ((@lookup_status_set _ "ttl_epoch_seconds" _ (by decide)).trans
    (@lookup_status_set _ "updated_at" _ (by decide))).trans lookup_status_self

theorem updatedBy_disconnect (now : String) :
    UpdatedBy formats (.disconnect now) item (applyUpdate sessionId item (.disconnect now)) where
  updates := (Updates.refl.set (fits_text (Or.inl rfl))).set (fits_other (by decide))
  status := (lookup_status_set (by decide)).trans lookup_status_self

theorem updatedBy_spawn (queueUrl : String) (poolId : ℤ) :
    UpdatedBy formats (.spawn queueUrl poolId) item
      (applyUpdate sessionId item (.spawn queueUrl poolId)) where
  updates := ((Updates.refl.set (fits_other (by decide))).set (fits_other (by decide))).set
    (fits_text (Or.inl rfl))
  status := lookup_status_self

theorem updatedBy_pass (tokens : List AsrToken) (audioUpto now : ℚ) :
    UpdatedBy formats (.pass tokens audioUpto now) item
      (applyUpdate sessionId item (.pass tokens audioUpto (formats.nowIso now))) := by
  have same : UpdatedBy formats (.pass tokens audioUpto now) item item := ⟨.refl, rfl⟩
  unfold applyUpdate
  dsimp only
  unfold TranscriberStream.updateLastTranscriptTokens
  split
  · exact same
  · rw [if_pos rfl]
    unfold TranscriberStream.lastTranscriptItem
    split
    · refine ⟨((Updates.refl.set (fits_other (by decide))).set (fits_other (by decide))).set
        (fits_time (Or.inl rfl) (formats.datetime_nowIso now)), ?_⟩
      exact ((lookup_status_set (by decide)).trans (lookup_status_set (by decide))).trans
        (lookup_status_set (by decide))
    · exact same

theorem updatedBy_final (status : String) (audioUpto now : ℚ) :
    UpdatedBy formats (.final status audioUpto now) item
      (applyUpdate sessionId item (.final status audioUpto (formats.nowIso now))) where
  updates := ((((Updates.refl.set (fits_text (Or.inl rfl))).set (fits_other (by decide))).set
    (fits_other (by decide))).set (fits_time (Or.inr rfl) (formats.datetime_nowIso now))).set
      (fits_time (Or.inl rfl) (formats.datetime_nowIso now))
  status := ((((lookup_status_set (by decide)).trans (lookup_status_set (by decide))).trans
    (lookup_status_set (by decide))).trans (lookup_status_set (by decide))).trans lookup_status_self

theorem updatedBy_admin (operation : AdminStop.Operation) (reason now : String) :
    UpdatedBy formats (.admin operation reason now) item (operation.update reason now item) := by
  have errored : UpdatedBy formats (.admin operation reason now) item
      (AdminStop.errored reason now item) :=
    ⟨((Updates.refl.set (fits_text (Or.inl rfl))).set (fits_other (by decide))).set
      (fits_other (by decide)), ((lookup_status_set (by decide)).trans
        (lookup_status_set (by decide))).trans lookup_status_self⟩
  cases operation with
  | terminate => exact errored
  | kill | block =>
      exact ⟨errored.updates.set (fits_other (by decide)),
        (lookup_status_set (by decide)).trans errored.status⟩

/-! ## A history describes its item -/

/-- The history says what the item is. -/
structure Describes (formats : Formats) (sessionId : String) (history : History)
    (item : Option Item) : Prop where
  unput : history.origin = none → ∀ held ∈ item, held.lookup "user_id" = none
  managed : history.origin = some .sessionManager → ∃ held, item = some held ∧
    Managed formats sessionId held ∧ held.lookup "status" = history.stored.map PyJson.str
  connected : history.origin = some .router → ∃ held, item = some held ∧ Connected held

/-- An update that is applied adds to the history what it does to the item. -/
theorem Describes.update {history : History} {held : Option Item} {write : Write}
    (describes : Describes formats sessionId history held)
    (kept : (history.add write).origin = history.origin)
    (stored : (history.add write).stored = write.status.or history.stored)
    (updated : UpdatedBy formats write (held.getD [("session_id", .str sessionId)]) after) :
    Describes formats sessionId (history.add write) (some after) where
  unput none := by
    rintro _ ⟨rfl⟩
    refine updated.updates.unowned ?_
    cases held with
    | none => rfl
    | some item => exact describes.unput (kept.symm.trans none) item rfl
  managed by_ := by
    obtain ⟨item, rfl, managed, status⟩ := describes.managed (kept.symm.trans by_)
    refine ⟨after, rfl, updated.updates.managed managed, ?_⟩
    have written := updated.status
    rw [Option.getD_some, status] at written
    rw [written, stored]
    cases write.status <;> rfl
  connected by_ := by
    obtain ⟨item, rfl, connected⟩ := describes.connected (kept.symm.trans by_)
    exact ⟨after, rfl, updated.updates.connected connected⟩

/-- **One write.** A history goes on to describe the item. -/
theorem Describes.add {history : History} {held written : Option Item} {write : Write}
    (describes : Describes formats sessionId history held)
    (writes : write.item formats sessionId held = some written) :
    Describes formats sessionId (history.add write) written := by
  cases write with
  | create userId language now sessionTtlSeconds =>
      rw [Write.item] at writes
      split at writes
      · cases writes
      · cases writes
        refine ⟨fun same => (nomatch same), fun _ => ⟨_, rfl, ?_, rfl⟩, fun same => (nomatch same)⟩
        have time : IsTime formats (.str (formats.isoformat now)) :=
          ⟨_, rfl, formats.datetime_isoformat now⟩
        exact ⟨rfl, ⟨_, rfl⟩, ⟨_, rfl, _, rfl⟩, ⟨_, rfl, _, rfl⟩, fun _ unset => (nomatch unset),
          ⟨_, rfl, time⟩, ⟨_, rfl, time⟩, fun _ unset => (nomatch unset), rfl, ⟨_, rfl⟩⟩
  | connect request =>
      cases writes
      refine ⟨fun same => (nomatch same), fun same => (nomatch same), fun _ => ⟨_, rfl, ?_⟩⟩
      unfold SessionRow.attributes connectItem
      dsimp only
      cases nonempty request.parentSessionId <;> cases nonempty request.promptSeedText <;>
        exact ⟨⟨_, rfl⟩, rfl⟩
  | batch status =>
      cases writes
      exact ⟨describes.unput, describes.managed, describes.connected⟩
  | patch userId request now =>
      obtain ⟨item, rfl, admitted⟩ := Option.bind_eq_some_iff.mp writes
      split at admitted
      · cases admitted
      · split at admitted
        · cases admitted
          exact describes.update rfl rfl (updatedBy_patch userId request now)
        · cases admitted
  | softDelete userId now =>
      obtain ⟨item, rfl, admitted⟩ := Option.bind_eq_some_iff.mp writes
      split at admitted
      · cases admitted
      · split at admitted
        · cases admitted
          exact describes.update rfl rfl (updatedBy_softDelete userId now)
        · cases admitted
  | disconnect now =>
      obtain ⟨item, rfl, rfl⟩ := Option.map_eq_some_iff.mp writes
      exact describes.update rfl rfl (updatedBy_disconnect now)
  | spawn queueUrl poolId =>
      obtain ⟨item, rfl, rfl⟩ := Option.map_eq_some_iff.mp writes
      exact describes.update rfl rfl (updatedBy_spawn queueUrl poolId)
  | pass tokens audioUpto now =>
      rw [Write.item] at writes
      split at writes
      · cases writes
      · cases writes
        exact describes.update rfl rfl (updatedBy_pass tokens audioUpto now)
  | final status audioUpto now =>
      rw [Write.item] at writes
      split at writes
      · cases writes
        exact describes.update rfl rfl (updatedBy_final status audioUpto now)
      · cases writes
  | admin operation reason now =>
      obtain ⟨item, rfl, rfl⟩ := Option.map_eq_some_iff.mp writes
      exact describes.update rfl rfl (updatedBy_admin operation reason now)

/-- No write removes an item. -/
theorem Write.eq_none_of_item {held : Option Item} {write : Write}
    (writes : write.item formats sessionId held = some none) : held = none := by
  cases held with
  | none => rfl
  | some item =>
      cases write with
      | connect request => cases writes
      | batch status => cases writes
      | create userId language now sessionTtlSeconds => cases writes
      | disconnect now => cases writes
      | spawn queueUrl poolId => cases writes
      | admin operation reason now => cases writes
      | pass tokens audioUpto now | final status audioUpto now =>
          rw [Write.item] at writes
          split at writes <;> cases writes
      | patch userId request now | softDelete userId now =>
          rw [Write.item, Option.bind_some] at writes
          split at writes
          · cases writes
          · split at writes <;> cases writes

/-- What was written to another session is not looked at. -/
theorem historyOf_concat (sessionId : String) (past : List Action) (action : Action) :
    historyOf sessionId (past ++ [action]) =
      if action.sessionId = sessionId then (historyOf sessionId past).add action.write
      else historyOf sessionId past := by
  unfold historyOf
  rw [List.filter_append, List.foldl_append]
  by_cases same : action.sessionId = sessionId
  · simp [same]
  · simp [same]

/-- **The histories of a run** describe its table. -/
theorem describes_run {actions : List Action} {final : SessionsTable}
    (run : execute (step formats) ∅ actions = some final) (sessionId : String) :
    Describes formats sessionId (historyOf sessionId actions) (final.lookup sessionId) := by
  have always : Meets (step formats) (fun _ _ _ => True) [] ∅ actions := Meets.trivial
  refine execute_induction (motive := fun past table => ∀ sessionId,
    Describes formats sessionId (historyOf sessionId past) (table.lookup sessionId)) ?_ ?_ always run
      sessionId
  · intro sessionId
    rw [AList.lookup_empty]
    exact ⟨fun _ _ held => (nomatch held), fun same => (nomatch same), fun same => (nomatch same)⟩
  · rintro past before ⟨target, write⟩ after - describes - taken sessionId
    obtain ⟨item, written, rfl⟩ := Option.map_eq_some_iff.mp taken
    rw [historyOf_concat]
    by_cases same : target = sessionId
    · subst same
      rw [if_pos rfl]
      have added := (describes target).add written
      cases item with
      | some item =>
          rw [AList.lookup_insert]
          exact added
      | none =>
          rw [Write.eq_none_of_item written]
          exact added
    · rw [if_neg same]
      cases item with
      | none => exact describes sessionId
      | some item =>
          rw [AList.lookup_insert_ne (Ne.symm same)]
          exact describes sessionId

/-! ## What the readers make of an item -/

theorem str?_of_lookup (held : item.lookup name = some (.str text)) : str? item name = some text := by
  rw [str?, held]

/-- An attribute that is renamed is found under its new name. -/
theorem lookup_expires_at {fields : Item} (unrenamed : fields.lookup "expires_at" = none) :
    (fields.map fun entry => (SessionManager.targetKey entry.1, entry.2)).lookup "expires_at" =
      fields.lookup "ttl_epoch_seconds" := by
  induction fields with
  | nil => rfl
  | cons entry rest ih =>
      obtain ⟨key, value⟩ := entry
      rw [List.lookup_cons] at unrenamed
      by_cases here : "expires_at" = key
      · rw [beq_iff_eq.mpr here] at unrenamed
        cases unrenamed
      · rw [beq_eq_false_iff_ne.mpr here] at unrenamed
        rw [List.map_cons, List.lookup_cons, List.lookup_cons, ih unrenamed]
        by_cases renamed : key = "ttl_epoch_seconds"
        · subst renamed
          rfl
        · have different : (("expires_at" : String) == SessionManager.targetKey key) = false := by
            rw [SessionManager.targetKey, if_neg renamed]
            exact beq_eq_false_iff_ne.mpr here
          rw [different, beq_eq_false_iff_ne.mpr (Ne.symm renamed)]

/-- A field that is a time is read. -/
theorem datetime_of_isTime {fields : Item}
    (same : fields.lookup name = (item.lookup name).map intOfDecimal)
    (held : ∃ value ∈ item.lookup name, IsTime formats value) :
    ∃ time, (fields.lookup name).bind formats.datetime = some time := by
  obtain ⟨_, found, text, rfl, read⟩ := held
  rw [same, Option.mem_def.mp found]
  exact Option.isSome_iff_exists.mp read

variable {userId : String}

/-- The session manager reads the items that it has put, while it knows their status. -/
theorem Managed.fromDynamo (managed : Managed formats sessionId item) (owned : OwnedBy userId item)
    (held : item.lookup "status" = some (.str text)) {status : SessionManager.SessionStatus}
    (known : SessionManager.SessionStatus.ofText? text = some status) :
    ∃ record, SessionManager.SessionRecord.fromDynamo formats.toPydantic item = .ok record ∧
      record.sessionId = sessionId ∧ record.userId = userId ∧ record.status = status := by
  have field : ∀ name, name ≠ "expires_at" ∧ name ≠ "ttl_epoch_seconds" →
      ((cleaned item).map fun entry => (SessionManager.targetKey entry.1, entry.2)).lookup name =
        (item.lookup name).map intOfDecimal := by
    intro name other
    rw [SessionManager.lookup_targetKey other, lookup_cleaned]
  have id := str?_of_lookup managed.sessionId
  obtain ⟨_, found, language, rfl⟩ := managed.language
  have spoken := str?_of_lookup found
  have gpu : ∃ gpuInstanceId, optionalStr? ((cleaned item).map fun entry =>
      (SessionManager.targetKey entry.1, entry.2)) "gpu_instance_id" = some gpuInstanceId := by
    unfold optionalStr?
    rw [field _ (by decide)]
    cases set : item.lookup "gpu_instance_id" with
    | none => exact ⟨none, rfl⟩
    | some value =>
        obtain ⟨text, rfl⟩ := managed.gpuInstanceId value set
        exact ⟨some text, rfl⟩
  obtain ⟨gpuInstanceId, gpu⟩ := gpu
  obtain ⟨createdAt, created⟩ := datetime_of_isTime (field "created_at" (by decide)) managed.createdAt
  obtain ⟨updatedAt, updated⟩ := datetime_of_isTime (field "updated_at" (by decide)) managed.updatedAt
  obtain ⟨number, ttl⟩ := managed.ttl
  have expires : (((cleaned item).map fun entry =>
      (SessionManager.targetKey entry.1, entry.2)).lookup "expires_at").bind formats.int =
        some number := by
    rw [lookup_expires_at (by rw [lookup_cleaned, managed.unrenamed]; rfl), lookup_cleaned, ttl]
    exact formats.int_int number
  have fields : SessionManager.SessionRecord.fields? formats.toPydantic
      ((cleaned item).map fun entry => (SessionManager.targetKey entry.1, entry.2)) =
        some ⟨sessionId, userId, status, language, gpuInstanceId, createdAt, updatedAt, number⟩ := by
    unfold SessionManager.SessionRecord.fields?
    rw [SessionManager.str?_renamed (by decide), id, SessionManager.str?_renamed (by decide), owned,
      SessionManager.str?_renamed (by decide), str?_of_lookup held,
      SessionManager.str?_renamed (by decide), spoken, gpu, created, updated, expires]
    simp only [Option.bind_eq_bind, Option.bind_some, known]
    rfl
  have read : SessionManager.SessionRecord.fromDynamo formats.toPydantic item =
      .ok ⟨sessionId, userId, status, language, gpuInstanceId, createdAt, updatedAt, number⟩ := by
    unfold SessionManager.SessionRecord.fromDynamo SessionManager.SessionRecord.modelValidate
    rw [fields]
  exact ⟨_, read, rfl, rfl, rfl⟩

/-- So does the query API. -/
theorem Managed.fromDynamo_reader (managed : Managed formats sessionId item)
    (owned : OwnedBy userId item) (held : item.lookup "status" = some (.str text))
    {status : SessionStatus} (known : SessionStatus.ofText? text = some status) :
    ∃ record, SessionRecord.fromDynamo formats.toPydantic item = .ok record ∧
      record.sessionId = sessionId ∧ record.userId = userId ∧ record.status = status := by
  have id := str?_of_lookup managed.sessionId
  obtain ⟨createdAt, created⟩ := datetime_of_isTime (lookup_cleaned item _) managed.createdAt
  obtain ⟨updatedAt, updated⟩ := datetime_of_isTime (lookup_cleaned item _) managed.updatedAt
  have ended : ∃ endedAt, optionalDatetime? formats.toPydantic (cleaned item) "ended_at" =
      some endedAt := by
    unfold optionalDatetime?
    rw [lookup_cleaned]
    cases set : item.lookup "ended_at" with
    | none => exact ⟨none, rfl⟩
    | some value =>
        obtain ⟨text, rfl, read⟩ := managed.endedAt value set
        obtain ⟨time, read⟩ := Option.isSome_iff_exists.mp read
        exact ⟨some time, congrArg (Option.map some) read⟩
  obtain ⟨endedAt, ended⟩ := ended
  have fields : SessionRecord.fields? formats.toPydantic (cleaned item) =
      some ⟨sessionId, userId, status, createdAt, updatedAt, endedAt⟩ := by
    unfold SessionRecord.fields?
    rw [str?_cleaned, id, str?_cleaned, owned, str?_cleaned, str?_of_lookup held, created, updated,
      ended]
    simp only [Option.bind_eq_bind, Option.bind_some, known]
    rfl
  have read : SessionRecord.fromDynamo formats.toPydantic item =
      .ok ⟨sessionId, userId, status, createdAt, updatedAt, endedAt⟩ := by
    unfold SessionRecord.fromDynamo SessionRecord.modelValidate
    rw [fields]
  exact ⟨_, read, rfl, rfl, rfl⟩

/-! ## The law -/

/-- A status that the session manager has put or updated is a text. -/
theorem Managed.legible {history : History} (managed : Managed formats sessionId item)
    (status : item.lookup "status" = history.stored.map PyJson.str)
    (same : history.stored = history.latest)
    (known : history.latest = some "starting" ∨ history.latest = some "active")
    (owned : OwnedBy userId item) :
    ∃ record read, SessionManager.SessionRecord.fromDynamo formats.toPydantic item = .ok record ∧
      SessionRecord.fromDynamo formats.toPydantic item = .ok read ∧
      record.sessionId = sessionId ∧ record.userId = userId ∧ read.sessionId = sessionId ∧
      history.latest = some record.status.text ∧ history.latest = some read.status.text := by
  rw [same] at status
  rcases known with known | known
  · rw [known] at status
    obtain ⟨record, here, id, owner, starting⟩ :=
      @Managed.fromDynamo _ _ _ _ _ managed owned status .starting rfl
    obtain ⟨read, there, readId, -, readStarting⟩ :=
      @Managed.fromDynamo_reader _ _ _ _ _ managed owned status .starting rfl
    exact ⟨record, read, here, there, id, owner, readId, by rw [known, starting]; rfl,
      by rw [known, readStarting]; rfl⟩
  · rw [known] at status
    obtain ⟨record, here, id, owner, active⟩ :=
      @Managed.fromDynamo _ _ _ _ _ managed owned status .active rfl
    obtain ⟨read, there, readId, -, readActive⟩ :=
      @Managed.fromDynamo_reader _ _ _ _ _ managed owned status .active rfl
    exact ⟨record, read, here, there, id, owner, readId, by rw [known, active]; rfl,
      by rw [known, readActive]; rfl⟩

/-- Rows that are read with their latest statuses make a page of them. -/
theorem mapM_latestOf {Record : Type} (read : Item → Except SessionReadError Record)
    (view : Record → String × Option String) (latest : String → Option String) {rows : List IndexRow}
    (reads : ∀ row ∈ rows, ∃ record, read row.item = .ok record ∧
      view record = (row.key.sessionId, latest row.key.sessionId)) :
    ∃ records, (rows.mapM fun row => read row.item) = .ok records ∧
      records.map view = latestOf latest rows := by
  induction rows with
  | nil => exact ⟨[], rfl, rfl⟩
  | cons row rest ih =>
      obtain ⟨record, here, viewed⟩ := reads row List.mem_cons_self
      obtain ⟨records, there, others⟩ := ih fun other member =>
        reads other (List.mem_cons_of_mem _ member)
      refine ⟨record :: records, ?_, ?_⟩
      · rw [List.mapM_cons, here, there]
        rfl
      · rw [List.map_cons, viewed, others]
        rfl

/-- Two statuses that both readers know and that have one text. -/
theorem known_of_text {managed : SessionManager.SessionStatus} {status : SessionStatus}
    (same : managed.text = status.text) :
    managed.text = "starting" ∨ managed.text = "active" := by
  cases managed with
  | starting => exact Or.inl rfl
  | active => exact Or.inr rfl
  | paused | completed | errored => cases status <;> exact absurd same (by decide)

section Run

variable {actions : List Action} {final : SessionsTable}

/-- What is known of an item of a user, if the history of its session is legible. -/
theorem legible_of_owned (run : execute (step formats) ∅ actions = some final)
    (legible : (historyOf sessionId actions).Legible) (held : final.lookup sessionId = some item)
    (owned : OwnedBy userId item) :
    Managed formats sessionId item ∧ ∃ record read,
      SessionManager.SessionRecord.fromDynamo formats.toPydantic item = .ok record ∧
      SessionRecord.fromDynamo formats.toPydantic item = .ok read ∧
      record.sessionId = sessionId ∧ record.userId = userId ∧ read.sessionId = sessionId ∧
      (historyOf sessionId actions).latest = some record.status.text ∧
      (historyOf sessionId actions).latest = some read.status.text := by
  have describes := describes_run run sessionId
  rw [held] at describes
  rcases legible with unput | ⟨put, same, known⟩
  · have unowned := describes.unput unput item rfl
    rw [OwnedBy, str?, unowned] at owned
    cases owned
  · obtain ⟨_, ⟨rfl⟩, managed, status⟩ := describes.managed put
    exact ⟨managed, managed.legible status same known owned⟩

/-- Where every history is legible, both services read everything back. -/
theorem readsBack_of_legible (run : execute (step formats) ∅ actions = some final)
    (legible : ∀ sessionId, (historyOf sessionId actions).Legible) (index : UserSessionsIndex)
    (userId : String) :
    ReadsBack formats index (fun sessionId => (historyOf sessionId actions).latest) final userId where
  get sessionId item held owned := by
    obtain ⟨-, record, read, here, there, -, owner, -, status, readStatus⟩ :=
      legible_of_owned run (legible sessionId) held owned
    refine ⟨record, read, ?_, ?_, status, readStatus⟩
    · rw [SessionManager.SessionStore.get, held]
      dsimp only
      rw [here, Except.map, if_neg (not_not.mpr owner)]
    · rw [SessionReader.get, held]
      dsimp only
      rw [if_neg (not_not.mpr owned), there]
      rfl
  indexed sessionId item held owned := by
    obtain ⟨managed, -⟩ := legible_of_owned run (legible sessionId) held owned
    obtain ⟨_, found, createdAt, rfl, -⟩ := managed.createdAt
    exact ⟨⟨⟨createdAt, sessionId⟩, item⟩, UserSessionsIndex.mem_rows.mpr ⟨sessionId, item, held,
      UserSessionsIndex.indexRow?_eq_some.mpr ⟨owned, str?_of_lookup found, rfl, rfl⟩⟩, rfl⟩
  list cursor stop := by
    have starts : ∃ start, SessionManager.SessionStore.startKey final userId cursor = .ok start ∧
        SessionReader.startKey final userId cursor = .ok start := by
      cases cursor with
      | none => exact ⟨none, rfl, rfl⟩
      | some sessionId =>
          unfold SessionManager.SessionStore.startKey SessionReader.startKey
          dsimp only
          cases held : final.lookup sessionId with
          | none => exact ⟨none, rfl, rfl⟩
          | some anchor =>
              by_cases owned : OwnedBy userId anchor
              · obtain ⟨managed, -⟩ := legible_of_owned run (legible sessionId) held owned
                obtain ⟨_, found, createdAt, rfl, -⟩ := managed.createdAt
                refine ⟨some ⟨createdAt, sessionId⟩, ?_, ?_⟩
                · dsimp only
                  rw [if_pos owned, Option.mem_def.mp found]
                · dsimp only
                  rw [if_pos owned, str?_of_lookup found]
              · exact ⟨none, if_neg owned, if_neg owned⟩
    obtain ⟨start, here, there⟩ := starts
    have reads : ∀ row ∈ index.query final userId start stop, ∃ record read,
        SessionManager.SessionRecord.fromDynamo formats.toPydantic row.item = .ok record ∧
        SessionRecord.fromDynamo formats.toPydantic row.item = .ok read ∧
        (record.sessionId, some record.status.text) =
          (row.key.sessionId, (historyOf row.key.sessionId actions).latest) ∧
        (read.sessionId, some read.status.text) =
          (row.key.sessionId, (historyOf row.key.sessionId actions).latest) := by
      intro row member
      obtain ⟨held, owned, -⟩ := UserSessionsIndex.lookup_of_mem_rows
        (UserSessionsIndex.mem_query.mp member).1
      obtain ⟨-, record, read, managed, found, id, -, readId, status, readStatus⟩ :=
        legible_of_owned run (legible row.key.sessionId) held owned
      exact ⟨record, read, managed, found, by rw [id, status], by rw [readId, readStatus]⟩
    obtain ⟨managed, listed, viewed⟩ := mapM_latestOf
      (SessionManager.SessionRecord.fromDynamo formats.toPydantic)
      (fun record => (record.sessionId, some record.status.text))
      (fun sessionId => (historyOf sessionId actions).latest) fun row member => by
        obtain ⟨record, -, read, -, view, -⟩ := reads row member
        exact ⟨record, read, view⟩
    obtain ⟨records, otherListed, otherViewed⟩ := mapM_latestOf
      (SessionRecord.fromDynamo formats.toPydantic)
      (fun record => (record.sessionId, some record.status.text))
      (fun sessionId => (historyOf sessionId actions).latest) fun row member => by
        obtain ⟨-, record, -, read, -, view⟩ := reads row member
        exact ⟨record, read, view⟩
    refine ⟨start, managed, records, here, ?_, ?_, viewed, otherViewed⟩
    · rw [SessionManager.SessionStore.listForUser, here]
      exact congrArg (Except.map fun records => (records, stop.map IndexKey.sessionId)) listed
    · rw [SessionReader.listForUser, there]
      exact congrArg (Except.map fun records => (records, stop.map IndexKey.sessionId)) otherListed

/-- Where a session is read back, its history is legible. -/
theorem legible_of_readsBack (run : execute (step formats) ∅ actions = some final)
    (readsBack : ∀ userId, ReadsBack formats index
      (fun sessionId => (historyOf sessionId actions).latest) final userId) (sessionId : String) :
    (historyOf sessionId actions).Legible := by
  have describes := describes_run run sessionId
  cases origin : (historyOf sessionId actions).origin with
  | none => exact Or.inl origin
  | some by_ =>
      -- an item that has been put has an owner
      have put : ∃ item userId, final.lookup sessionId = some item ∧ OwnedBy userId item := by
        cases by_ with
        | sessionManager =>
            obtain ⟨item, held, managed, -⟩ := describes.managed origin
            obtain ⟨userId, owner⟩ := managed.owner
            exact ⟨item, userId, held, str?_of_lookup owner⟩
        | router =>
            obtain ⟨item, held, connected⟩ := describes.connected origin
            obtain ⟨userId, owner⟩ := connected.owner
            exact ⟨item, userId, held, str?_of_lookup owner⟩
      obtain ⟨item, userId, held, owned⟩ := put
      obtain ⟨record, read, here, there, status, readStatus⟩ :=
        (readsBack userId).get sessionId item held owned
      have made : SessionManager.SessionRecord.fromDynamo formats.toPydantic item = .ok record := by
        rw [SessionManager.SessionStore.get, held] at here
        dsimp only at here
        cases made : SessionManager.SessionRecord.fromDynamo formats.toPydantic item with
        | error error =>
            rw [made] at here
            cases here
        | ok found =>
            rw [made, Except.map] at here
            split at here
            · cases here
            · cases here
              rfl
      obtain ⟨-, -, stored, language⟩ := SessionManager.texts_of_fromDynamo made
      cases by_ with
      | router =>
          obtain ⟨_, same, connected⟩ := describes.connected origin
          cases held.symm.trans same
          rw [str?, connected.language] at language
          cases language
      | sessionManager =>
          obtain ⟨_, same, -, written⟩ := describes.managed origin
          cases held.symm.trans same
          have text : (historyOf sessionId actions).stored = some record.status.text := by
            rw [str?, written] at stored
            cases last : (historyOf sessionId actions).stored with
            | none =>
                rw [last] at stored
                cases stored
            | some text =>
                rw [last] at stored
                exact stored
          refine Or.inr ⟨origin, text.trans status.symm, ?_⟩
          rw [status, Option.some.injEq, Option.some.injEq]
          exact known_of_text (Option.some.inj (status.symm.trans readStatus))

/-- **Readability.** After any writes to any sessions, both services return every session to its
owner with the status written last, by its id and on every page, if and only if each session that
has been put was last put by the session manager, and the status written last to it is in its item
and is one of the two that both services know. -/
theorem readsBack_iff (formats : Formats) (index : UserSessionsIndex) (actions : List Action)
    (final : SessionsTable) (run : execute (step formats) ∅ actions = some final) :
    (∀ userId, ReadsBack formats index (fun sessionId => (historyOf sessionId actions).latest) final
        userId) ↔
      ∀ sessionId, (historyOf sessionId actions).Legible :=
  ⟨legible_of_readsBack run, fun legible => readsBack_of_legible run legible index⟩

end Run

/-! ## One session -/

/-- How Pydantic reads the one time of the sample, in both its texts. -/
def sampleDatetime : PyJson → Option ℚ
  | .str "2026-05-11T00:00:00+00:00" | .str "2026-05-11T00:00:00Z" => some 1778457600
  | _ => none

theorem sampleDatetime_isoformat :
    ∀ _ : ℚ, (sampleDatetime (.str "2026-05-11T00:00:00+00:00")).isSome := fun _ => rfl

theorem sampleDatetime_nowIso :
    ∀ _ : ℚ, (sampleDatetime (.str "2026-05-11T00:00:00Z")).isSome := fun _ => rfl

theorem int?_int : ∀ value : ℤ, PyJson.int? (.int value) = some value := fun _ => rfl

/-- Pydantic and the writers at one time. -/
def sampleFormats : Formats where
  datetime := sampleDatetime
  int := PyJson.int?
  isoformat _ := "2026-05-11T00:00:00+00:00"
  nowIso _ := "2026-05-11T00:00:00Z"
  datetime_isoformat := sampleDatetime_isoformat
  datetime_nowIso := sampleDatetime_nowIso
  int_int := int?_int

/-- The session manager makes a session, and the transcriber writes a word to it. -/
def createdRun : List Action :=
  [⟨"s-1", .create "u-1" "en" 1778457600 28800⟩,
    ⟨"s-1", .pass [⟨"word", none, none, none⟩] 1 1778457600⟩]

theorem legible_createdRun (sessionId : String) : (historyOf sessionId createdRun).Legible := by
  by_cases same : "s-1" = sessionId
  · subst same
    decide
  · have others : createdRun.filter (·.sessionId = sessionId) = [] := by
      simp [createdRun, same]
    rw [historyOf, others]
    exact Or.inl rfl

/-- The session is read back. -/
theorem readsBack_createdRun :
    ∃ final, execute (step sampleFormats) ∅ createdRun = some final ∧
      ReadsBack sampleFormats .newestFirst
        (fun sessionId => (historyOf sessionId createdRun).latest) final "u-1" :=
  ⟨_, rfl, (readsBack_iff sampleFormats .newestFirst createdRun _ rfl).mpr legible_createdRun "u-1"⟩

/-- The router makes a session. -/
def connectedRun : List Action :=
  [⟨"c-1", .connect ⟨"u-1", "t-1", "user", "2026-05-11T00:00:00Z", 1778457600, none, none⟩⟩]

/-- The session of the router is not returned to its owner. -/
theorem connectedRun_not_readsBack :
    ¬ ∀ (formats : Formats) (index : UserSessionsIndex) (actions : List Action)
      (final : SessionsTable), execute (step formats) ∅ actions = some final →
        ∀ userId, ReadsBack formats index
          (fun sessionId => (historyOf sessionId actions).latest) final userId := by
  intro always
  have readsBack := always sampleFormats .newestFirst connectedRun _ rfl "u-1"
  obtain ⟨record, read, returned, -⟩ := readsBack.get "c-1" _ rfl rfl
  cases returned

end Panakoes.QueryApi.SessionWriters
