import Panakoes.QueryApi.SessionReader
import Panakoes.SessionManager.SessionItems

/-! # Sessions of other users

What a user is answered about sessions does not depend on the sessions of others, except that the
session manager makes a record of an item before it compares the owner: an item of another user
that is no record is answered with an error, and an id without an item is not.
-/

namespace Panakoes.QueryApi

open DynamoItem Streaming
open SessionManager (SessionReply UpdateSessionRequest getSession listSessions sessionNotFound
  updateSession)

/-- A request of a user to the session manager, or to the reader of the query API. -/
inductive SessionRequest where
  | get (sessionId : String)
  | list (cursor : Option String) (stop : Option IndexKey)
  | patch (sessionId : String) (request : UpdateSessionRequest) (now : String)
  | readerGet (sessionId : String)
  | readerList (cursor : Option String) (stop : Option IndexKey)

/-- What a request is answered with. -/
inductive SessionAnswer where
  | reply (reply : SessionReply)
  | record (result : Except SessionReadError (Option SessionRecord))
  | page (result : Except SessionReadError (List SessionRecord × Option String))

variable (pydantic : Pydantic) (index : UserSessionsIndex) (userId : String)

/-- The answer to a request of the user. -/
def SessionRequest.answer (table : SessionsTable) : SessionRequest → SessionAnswer
  | .get sessionId => .reply (getSession pydantic table userId sessionId)
  | .list cursor stop => .reply (listSessions pydantic index table userId cursor stop)
  | .patch sessionId request now =>
      .reply (updateSession pydantic table userId sessionId request now).2
  | .readerGet sessionId => .record (SessionReader.get pydantic table userId sessionId)
  | .readerList cursor stop =>
      .page (SessionReader.listForUser pydantic index table userId cursor stop)

/-- The id that the session manager gets the item of, whoever owns it. -/
def SessionRequest.fetched : SessionRequest → Option String
  | .get sessionId => some sessionId
  | .patch sessionId request _ =>
      if request.status = none ∧ request.gpuInstanceId = none then none else some sessionId
  | .list .. | .readerGet _ | .readerList .. => none

/-- The id is of an item of another user of which the session manager can make no record. -/
def Unreadable (table : SessionsTable) (sessionId : String) : Prop :=
  ∃ item, table.lookup sessionId = some item ∧ ¬ OwnedBy userId item ∧
    (SessionManager.SessionRecord.fromDynamo pydantic item).isOk = false

/-! ## The session manager -/

variable {pydantic userId} {table first second : SessionsTable} {sessionId : String} {item : Item}

/-- The item of another user is no record, or is not found. -/
theorem get_of_foreign (held : table.lookup sessionId = some item) (foreign : ¬ OwnedBy userId item) :
    (SessionManager.SessionStore.get pydantic table userId sessionId).isOk = false ∧
        Unreadable pydantic userId table sessionId ∨
      SessionManager.SessionStore.get pydantic table userId sessionId = .ok none ∧
        ¬ Unreadable pydantic userId table sessionId := by
  unfold SessionManager.SessionStore.get
  rw [held]
  dsimp only
  cases read : SessionManager.SessionRecord.fromDynamo pydantic item with
  | error error =>
      refine Or.inl ⟨rfl, item, held, foreign, ?_⟩
      rw [read]
      rfl
  | ok record =>
      refine Or.inr ⟨?_, ?_⟩
      · have differs : record.userId ≠ userId := by
          rintro rfl
          exact foreign (SessionManager.texts_of_fromDynamo read).2.1
        exact congrArg Except.ok (if_pos differs)
      · rintro ⟨other, found, -, unread⟩
        cases held.symm.trans found
        rw [read] at unread
        cases unread

/-- Where the user has no item, the session manager finds none, or raises. -/
theorem get_of_not_owned
    (foreign : ∀ item, table.lookup sessionId = some item → ¬ OwnedBy userId item) :
    (SessionManager.SessionStore.get pydantic table userId sessionId).isOk = false ∧
        Unreadable pydantic userId table sessionId ∨
      SessionManager.SessionStore.get pydantic table userId sessionId = .ok none ∧
        ¬ Unreadable pydantic userId table sessionId := by
  cases held : table.lookup sessionId with
  | some item => exact get_of_foreign held (foreign item held)
  | none =>
      refine Or.inr ⟨?_, ?_⟩
      · rw [SessionManager.SessionStore.get, held]
      · rintro ⟨item, found, -⟩
        cases held.symm.trans found

/-- Tables that agree on the user hold the same item of theirs under an id, or none. -/
theorem lookup_cases (agree : AgreeOn userId first second) (sessionId : String) :
    (∃ item, OwnedBy userId item ∧ first.lookup sessionId = some item ∧
        second.lookup sessionId = some item) ∨
      (∀ item, first.lookup sessionId = some item → ¬ OwnedBy userId item) ∧
        ∀ item, second.lookup sessionId = some item → ¬ OwnedBy userId item := by
  by_cases owned : ∃ item, OwnedBy userId item ∧ first.lookup sessionId = some item
  · obtain ⟨item, theirs, held⟩ := owned
    exact Or.inl ⟨item, theirs, held, (agree sessionId item theirs).mp held⟩
  · refine Or.inr ⟨fun item held theirs => owned ⟨item, theirs, held⟩, fun item held theirs => ?_⟩
    exact owned ⟨item, theirs, (agree sessionId item theirs).mpr held⟩

theorem not_unreadable_of_owned (held : table.lookup sessionId = some item)
    (owned : OwnedBy userId item) : ¬ Unreadable pydantic userId table sessionId := by
  rintro ⟨other, found, foreign, -⟩
  cases held.symm.trans found
  exact foreign owned

/-- **Fetching.** An answer that is made of what the session manager gets for an id, in which an
error is told from an id that is not there, is the same if and only if the id is unreadable in both
tables or in none. -/
theorem fetched_eq_iff (agree : AgreeOn userId first second) (reply : SessionsTable → SessionReply)
    (local_ : first.lookup sessionId = second.lookup sessionId → reply first = reply second)
    (raised : ∀ table, (SessionManager.SessionStore.get pydantic table userId sessionId).isOk = false →
      reply table = .raised)
    (missing : ∀ table, SessionManager.SessionStore.get pydantic table userId sessionId = .ok none →
      reply table = sessionNotFound) :
    reply first = reply second ↔
      (Unreadable pydantic userId first sessionId ↔ Unreadable pydantic userId second sessionId) := by
  rcases lookup_cases agree sessionId with ⟨item, owned, held, there⟩ | ⟨here, there⟩
  · exact iff_of_true (local_ (held.trans there.symm))
      (iff_of_false (not_unreadable_of_owned held owned) (not_unreadable_of_owned there owned))
  · rcases get_of_not_owned here with ⟨error, unreadable⟩ | ⟨none, readable⟩ <;>
      rcases get_of_not_owned there with ⟨otherError, other⟩ | ⟨otherNone, other⟩
    · rw [raised first error, raised second otherError]
      exact iff_of_true rfl (iff_of_true unreadable other)
    · rw [raised first error, missing second otherNone]
      exact iff_of_false (fun same => nomatch same) fun same => other (same.mp unreadable)
    · rw [missing first none, raised second otherError]
      exact iff_of_false (fun same => nomatch same) fun same => readable (same.mpr other)
    · rw [missing first none, missing second otherNone]
      exact iff_of_true rfl (iff_of_false readable other)

/-- An answer to a `GET` is made of the item under the id. -/
theorem getSession_congr (same : first.lookup sessionId = second.lookup sessionId) :
    getSession pydantic first userId sessionId = getSession pydantic second userId sessionId := by
  unfold getSession SessionManager.SessionStore.get
  rw [same]

theorem getSession_of_raised
    (raised : (SessionManager.SessionStore.get pydantic table userId sessionId).isOk = false) :
    getSession pydantic table userId sessionId = .raised := by
  unfold getSession
  cases got : SessionManager.SessionStore.get pydantic table userId sessionId with
  | error error => rfl
  | ok found =>
      rw [got] at raised
      cases raised

/-- An answer to a `PATCH` is made of the item under the id. -/
theorem updateSession_congr (same : first.lookup sessionId = second.lookup sessionId)
    (request : UpdateSessionRequest) (now : String) :
    (updateSession pydantic first userId sessionId request now).2 =
      (updateSession pydantic second userId sessionId request now).2 := by
  have got : SessionManager.SessionStore.get pydantic first userId sessionId =
      SessionManager.SessionStore.get pydantic second userId sessionId := by
    unfold SessionManager.SessionStore.get
    rw [same]
  have updated : ∀ updates,
      (SessionManager.SessionStore.update pydantic first userId sessionId updates).2 =
        (SessionManager.SessionStore.update pydantic second userId sessionId updates).2 := by
    intro updates
    unfold SessionManager.SessionStore.update
    rw [same]
    cases second.lookup sessionId with
    | none => rfl
    | some item =>
        dsimp only
        split <;> rfl
  unfold updateSession
  rw [got]
  split
  · rfl
  · cases SessionManager.SessionStore.get pydantic second userId sessionId with
    | error error => rfl
    | ok current =>
        cases current with
        | none => rfl
        | some current =>
            dsimp only
            split
            · rfl
            · have reply := updated (SessionManager.SessionStore.attributes now request)
              revert reply
              generalize SessionManager.SessionStore.update pydantic first userId sessionId
                (SessionManager.SessionStore.attributes now request) = here
              generalize SessionManager.SessionStore.update pydantic second userId sessionId
                (SessionManager.SessionStore.attributes now request) = there
              obtain ⟨written, result⟩ := here
              obtain ⟨otherWritten, other⟩ := there
              rintro rfl
              cases result with
              | ok record => rfl
              | error error => cases error <;> rfl

theorem updateSession_of_raised {request : UpdateSessionRequest} {now : String}
    (asks : ¬ (request.status = none ∧ request.gpuInstanceId = none))
    (raised : (SessionManager.SessionStore.get pydantic table userId sessionId).isOk = false) :
    (updateSession pydantic table userId sessionId request now).2 = .raised := by
  unfold updateSession
  rw [if_neg asks]
  cases got : SessionManager.SessionStore.get pydantic table userId sessionId with
  | error error => rfl
  | ok found =>
      rw [got] at raised
      cases raised

theorem updateSession_of_none {request : UpdateSessionRequest} {now : String}
    (asks : ¬ (request.status = none ∧ request.gpuInstanceId = none))
    (missing : SessionManager.SessionStore.get pydantic table userId sessionId = .ok none) :
    (updateSession pydantic table userId sessionId request now).2 = sessionNotFound := by
  unfold updateSession
  rw [if_neg asks, missing]

/-! ## The query API -/

/-- The reader does not look at an item of another user. -/
theorem readerGet_congr (agree : AgreeOn userId first second) :
    SessionReader.get pydantic first userId sessionId =
      SessionReader.get pydantic second userId sessionId := by
  have absent : ∀ table : SessionsTable,
      (∀ item, table.lookup sessionId = some item → ¬ OwnedBy userId item) →
        SessionReader.get pydantic table userId sessionId = .ok none := by
    intro table foreign
    unfold SessionReader.get
    cases held : table.lookup sessionId with
    | none => rfl
    | some item => exact if_pos (foreign item held)
  rcases lookup_cases agree sessionId with ⟨item, owned, held, there⟩ | ⟨here, there⟩
  · unfold SessionReader.get
    rw [held, there]
  · rw [absent first here, absent second there]

/-! ## Pages -/

/-- The start key of a page is made of an item of the user. -/
theorem startKey_congr (agree : AgreeOn userId first second) (cursor : Option String) :
    SessionManager.SessionStore.startKey first userId cursor =
        SessionManager.SessionStore.startKey second userId cursor ∧
      SessionReader.startKey first userId cursor = SessionReader.startKey second userId cursor := by
  cases cursor with
  | none => exact ⟨rfl, rfl⟩
  | some sessionId =>
      unfold SessionManager.SessionStore.startKey SessionReader.startKey
      dsimp only
      rcases lookup_cases agree sessionId with ⟨item, owned, held, there⟩ | ⟨here, there⟩
      · rw [held, there]
        exact ⟨rfl, rfl⟩
      · -- no start key is made of what is not the user's
        have absent : ∀ table : SessionsTable,
            (∀ item, table.lookup sessionId = some item → ¬ OwnedBy userId item) →
              SessionManager.SessionStore.startKey table userId (some sessionId) = .ok none ∧
                SessionReader.startKey table userId (some sessionId) = .ok none := by
          intro table foreign
          unfold SessionManager.SessionStore.startKey SessionReader.startKey
          dsimp only
          cases held : table.lookup sessionId with
          | none => exact ⟨rfl, rfl⟩
          | some item => exact ⟨if_neg (foreign item held), if_neg (foreign item held)⟩
        obtain ⟨manager, reader⟩ := absent first here
        obtain ⟨otherManager, otherReader⟩ := absent second there
        exact ⟨manager.trans otherManager.symm, reader.trans otherReader.symm⟩

theorem query_congr (agree : AgreeOn userId first second) (index : UserSessionsIndex)
    (start stop : Option IndexKey) :
    index.query first userId start stop = index.query second userId start stop := by
  unfold UserSessionsIndex.query
  rw [agree.rows index]

/-! ## The law -/

/-- **Non-interference.** For tables that hold the same sessions of the user, the answers to a
request of theirs are the same if and only if the id that the session manager fetches for it is
unreadable in both tables or in none. -/
theorem answer_unrevealing_iff (pydantic : Pydantic) (index : UserSessionsIndex) (userId : String)
    (first second : SessionsTable) (agree : AgreeOn userId first second)
    (request : SessionRequest) :
    request.answer pydantic index userId first = request.answer pydantic index userId second ↔
      ∀ sessionId ∈ request.fetched,
        (Unreadable pydantic userId first sessionId ↔
          Unreadable pydantic userId second sessionId) := by
  cases request with
  | get sessionId =>
      have fetched := fetched_eq_iff agree (fun table => getSession pydantic table userId sessionId)
        getSession_congr (fun _ => getSession_of_raised) fun table missing => by
          rw [getSession, missing]
      simpa [SessionRequest.answer, SessionRequest.fetched] using fetched
  | list cursor stop =>
      have here : listSessions pydantic index first userId cursor stop =
          listSessions pydantic index second userId cursor stop := by
        unfold listSessions SessionManager.SessionStore.listForUser
        rw [(startKey_congr agree cursor).1]
        simp only [query_congr agree]
      exact iff_of_true (congrArg SessionAnswer.reply here) fun _ fetched => nomatch fetched
  | patch sessionId request now =>
      by_cases empty : request.status = none ∧ request.gpuInstanceId = none
      · have here : (updateSession pydantic first userId sessionId request now).2 =
            (updateSession pydantic second userId sessionId request now).2 := by
          unfold updateSession
          rw [if_pos empty, if_pos empty]
        refine iff_of_true (congrArg SessionAnswer.reply here) fun id fetched => ?_
        rw [SessionRequest.fetched, if_pos empty] at fetched
        cases fetched
      · have fetched := fetched_eq_iff agree
          (fun table => (updateSession pydantic table userId sessionId request now).2)
          (fun same => updateSession_congr same request now)
          (fun _ => updateSession_of_raised empty) fun _ => updateSession_of_none empty
        simpa [SessionRequest.answer, SessionRequest.fetched, empty] using fetched
  | readerGet sessionId =>
      exact iff_of_true (congrArg SessionAnswer.record (readerGet_congr agree))
        fun _ fetched => nomatch fetched
  | readerList cursor stop =>
      have here : SessionReader.listForUser pydantic index first userId cursor stop =
          SessionReader.listForUser pydantic index second userId cursor stop := by
        unfold SessionReader.listForUser
        rw [(startKey_congr agree cursor).2]
        simp only [query_congr agree]
      exact iff_of_true (congrArg SessionAnswer.page here) fun _ fetched => nomatch fetched

/-! ## A session of another user -/

/-- Pydantic on the times and integers of the samples. -/
def samplePydantic : Pydantic where
  datetime
    | .str "2026-05-11T00:00:00+00:00" => some 1778457600
    | _ => none
  int := PyJson.int?

/-- A session that the session manager has made. -/
def createdItem : Item :=
  [("session_id", .str "s-2"), ("user_id", .str "u-2"), ("status", .str "starting"),
    ("language", .str "en"), ("created_at", .str "2026-05-11T00:00:00+00:00"),
    ("updated_at", .str "2026-05-11T00:00:00+00:00"), ("ttl_epoch_seconds", .int 1778486400)]

/-- A session that the router has made. -/
def connectedItem : Item :=
  [("session_id", .str "s-2"), ("connection_id", .str "c-2"), ("status", .str "connecting"),
    ("user_id", .str "u-2"), ("tenant_id", .str "t-2"), ("role", .str "user"),
    ("connected_at", .str "2026-05-11T00:00:00+00:00"), ("ttl_epoch_seconds", .int 1778464800)]

/-- A session that the session manager has made for another user makes no difference. -/
theorem answer_eq_created :
    (SessionRequest.get "s-2").answer samplePydantic .newestFirst "u-1" ∅ =
      (SessionRequest.get "s-2").answer samplePydantic .newestFirst "u-1"
        (AList.insert "s-2" createdItem ∅) := by
  refine (answer_unrevealing_iff samplePydantic .newestFirst "u-1" ∅ (AList.insert "s-2" createdItem ∅)
    (AgreeOn.insert (by decide) rfl) (.get "s-2")).mpr ?_
  rintro _ ⟨rfl⟩
  refine iff_of_false ?_ ?_
  · rintro ⟨item, held, -⟩
    cases held
  · rintro ⟨item, held, -, unread⟩
    cases held
    cases unread

/-- A session that the router has made for another user is told from one that is not there. -/
theorem answer_reveals_connected :
    ¬ ∀ (pydantic : Pydantic) (index : UserSessionsIndex) (userId : String)
      (first second : SessionsTable), AgreeOn userId first second →
        ∀ request : SessionRequest,
          request.answer pydantic index userId first = request.answer pydantic index userId second := by
  intro always
  have same := always samplePydantic .newestFirst "u-1" ∅ (AList.insert "s-2" connectedItem ∅)
    (AgreeOn.insert (by decide) rfl) (.get "s-2")
  cases SessionAnswer.reply.inj same

end Panakoes.QueryApi
