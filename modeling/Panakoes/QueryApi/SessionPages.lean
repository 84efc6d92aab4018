import Panakoes.Foundation.Run
import Panakoes.QueryApi.SessionReader
import Panakoes.SessionManager.SessionItems

/-! # Pages of sessions while sessions are deleted

A client follows the cursors of a listing, and between its calls sessions go. A cursor is the id of
a session; the next page starts after that session, as long as it is there. Once it has gone the
listing starts again.
-/

namespace Panakoes.QueryApi.SessionPages

open DynamoItem Streaming Transition

/-! ## The listings -/

/-- The services that list sessions. -/
inductive Reader where
  | sessionManager
  | queryApi

/-- The record of the service. -/
def Reader.Record : Reader → Type
  | .sessionManager => SessionManager.SessionRecord
  | .queryApi => SessionRecord

variable (pydantic : Pydantic) (index : UserSessionsIndex) (userId : String)

/-- `_from_dynamo`. -/
def Reader.fromDynamo (item : Item) : (reader : Reader) → Except SessionReadError reader.Record
  | .sessionManager => SessionManager.SessionRecord.fromDynamo pydantic item
  | .queryApi => SessionRecord.fromDynamo pydantic item

/-- The id of a record. -/
def Reader.sessionId : (reader : Reader) → reader.Record → String
  | .sessionManager => SessionManager.SessionRecord.sessionId
  | .queryApi => SessionRecord.sessionId

/-- The start key of a page. -/
def Reader.startKey (table : SessionsTable) (cursor : Option String) :
    Reader → Except SessionReadError (Option IndexKey)
  | .sessionManager => SessionManager.SessionStore.startKey table userId cursor
  | .queryApi => SessionReader.startKey table userId cursor

/-- `list_for_user`. -/
def Reader.listForUser (table : SessionsTable) (cursor : Option String) (stop : Option IndexKey) :
    (reader : Reader) → Except SessionReadError (List reader.Record × Option String)
  | .sessionManager =>
      SessionManager.SessionStore.listForUser pydantic index table userId cursor stop
  | .queryApi => SessionReader.listForUser pydantic index table userId cursor stop

/-- The service makes a record of the item, and the index has it. -/
def Reader.Reads (reader : Reader) (item : Item) : Prop :=
  (reader.fromDynamo pydantic item).isOk ∧ (str? item "created_at").isSome

/-! ## A client that follows the cursors -/

/-- Sessions under their ids. -/
structure KeyedSessions where
  items : SessionsTable
  keyed : items.All fun sessionId item => str? item "session_id" = some sessionId

/-- A session is deleted. -/
def KeyedSessions.delete (sessions : KeyedSessions) (sessionId : String) : KeyedSessions where
  items := sessions.items.erase sessionId
  keyed := by
    intro other item held
    by_cases same : other = sessionId
    · subst same
      rw [AList.lookup_erase] at held
      cases held
    · rw [AList.lookup_erase_ne same] at held
      exact sessions.keyed other item held

/-- What the client calls next. -/
inductive Cursor where
  | next (cursor : Option String)
  | ended
  deriving DecidableEq

/-- The sessions there are, where the client stands, and what it has been returned. -/
structure Walk (Record : Type) where
  sessions : KeyedSessions
  cursor : Cursor
  returned : List Record

/-- A client that has not called yet. -/
def Walk.start {Record : Type} (sessions : KeyedSessions) : Walk Record :=
  ⟨sessions, .next none, []⟩

/-- A session goes, or the client calls `list_for_user`, of which the query stops at `stop`. -/
inductive Action where
  | delete (sessionId : String)
  | list (limit : ℕ) (stop : Option IndexKey)

/-- The action is a call. -/
def Action.isList : Action → Bool
  | .list .. => true
  | .delete _ => false

variable (reader : Reader)

/-- One step. A call that raises is the client's last one. -/
def step (state : Walk reader.Record) : Action → Option (Walk reader.Record)
  | .delete sessionId => some { state with sessions := state.sessions.delete sessionId }
  | .list limit stop =>
      match state.cursor with
      | .ended => none
      | .next cursor =>
          if ∀ start ∈ (reader.startKey userId state.sessions.items cursor).toOption,
              index.Stops (index.query state.sessions.items userId start none) limit stop then
            match reader.listForUser pydantic index userId state.sessions.items cursor stop with
            | .error _ => some { state with cursor := .ended }
            | .ok (records, nextCursor) =>
                some { state with
                  cursor := if nextCursor = none then .ended else .next nextCursor
                  returned := state.returned ++ records }
          else none

/-- The ids of what the client has been returned. -/
def Walk.ids (state : Walk reader.Record) : List String := state.returned.map reader.sessionId

/-- The service reads all sessions of the user. -/
def ReadsAll (sessions : KeyedSessions) : Prop :=
  sessions.items.All fun _ item => OwnedBy userId item → reader.Reads pydantic item

/-- The session of the cursor is there. -/
def Cursor.Held (table : SessionsTable) : Cursor → Prop
  | .next (some cursor) => (table.lookup cursor).isSome
  | .next none | .ended => True

instance (table : SessionsTable) : ∀ cursor : Cursor, Decidable (cursor.Held table)
  | .next (some _) => inferInstanceAs (Decidable (_ = true))
  | .next none | .ended => isTrue True.intro

variable {reader}

/-- When the client calls with a cursor, the session of the cursor is there. -/
def Anchored (state : Walk reader.Record) : Action → Prop
  | .delete _ => True
  | .list .. => state.cursor.Held state.sessions.items

instance (state : Walk reader.Record) : ∀ action, Decidable (Anchored state action)
  | .delete _ => isTrue True.intro
  | .list .. => inferInstanceAs (Decidable (state.cursor.Held _))

variable (reader)

/-- No session is returned twice, and once the client is done, every session of the user that has
been there throughout has been returned. -/
structure PagedOnce (state : Walk reader.Record) : Prop where
  once : (state.ids reader).Nodup
  all : state.cursor = .ended → ∀ sessionId item,
    state.sessions.items.lookup sessionId = some item → OwnedBy userId item →
      sessionId ∈ state.ids reader

/-! ## How far the client has come -/

/-- Where the client stands: before the rows after a key, or at the end. -/
inductive Position where
  | next (last : Option IndexKey)
  | ended

/-- What the client calls with there. -/
def Position.cursor : Position → Cursor
  | .next last => .next (last.map IndexKey.sessionId)
  | .ended => .ended

/-- The position after a page. -/
def Position.after : Option IndexKey → Position
  | none => .ended
  | some last => .next (some last)

/-- The rows of the user that pages up to the position read. -/
def Position.read (table : SessionsTable) : Position → List IndexRow
  | .next none => []
  | .next (some last) => index.query table userId none (some last)
  | .ended => index.rows table userId

/-- Pages up to the position have come past the key. -/
def Position.Covers (key : IndexKey) : Position → Prop
  | .next none => False
  | .next (some last) => index.order.le key last
  | .ended => True

variable {pydantic index userId reader} {sessions : KeyedSessions} {state after : Walk reader.Record}
  {last stop : Option IndexKey} {position : Position} {table other : SessionsTable} {row : IndexRow}

theorem query_none : index.query table userId none none = index.rows table userId :=
  @PagedQuery.between_none _ _ index.order _ _

/-- What is read once a page has been read. -/
theorem read_append (later : ∀ key ∈ stop, ∀ bound ∈ last, index.order.lt bound key) :
    (Position.next last).read index userId table ++ index.query table userId last stop =
      (Position.after stop).read index userId table := by
  let := index.order
  have whole : index.query table userId none stop =
      (Position.after stop).read index userId table := by
    cases stop with
    | none => exact query_none
    | some key => rfl
  cases last with
  | none => exact whole
  | some bound =>
      rw [← whole]
      exact PagedQuery.between_append UserSessionsIndex.pairwise_rows (fun _ held => nomatch held)
        fun key held => le_of_lt (later key held bound rfl)

theorem mem_read : row ∈ position.read index userId table ↔
    row ∈ index.rows table userId ∧ position.Covers index row.key := by
  cases position with
  | ended => exact (and_iff_left True.intro).symm
  | next last =>
      cases last with
      | none => exact iff_of_false List.not_mem_nil fun held => held.2
      | some last =>
          rw [Position.read, UserSessionsIndex.mem_query]
          refine and_congr_right fun _ => ?_
          constructor
          · exact fun held => held.2 last rfl
          · intro held
            refine ⟨fun _ unbounded => (nomatch unbounded), fun _ same => ?_⟩
            cases same
            exact held

/-- The rows of a table from which sessions have gone are rows that there were. -/
theorem rows_subset (within : ∀ sessionId item, table.lookup sessionId = some item →
      other.lookup sessionId = some item) (member : row ∈ index.rows table userId) :
    row ∈ index.rows other userId := by
  obtain ⟨sessionId, item, held, found⟩ := UserSessionsIndex.mem_rows.mp member
  exact UserSessionsIndex.mem_rows.mpr ⟨sessionId, item, within sessionId item held, found⟩

/-- **The invariant.** What the client has been returned are rows up to its position, each of them
once and all that are still there; and it has not called more often than there were rows. -/
structure Walked (index : UserSessionsIndex) (userId : String) (sessions : KeyedSessions)
    (calls : ℕ) (state : Walk reader.Record) (position : Position) : Prop where
  within : ∀ sessionId item, state.sessions.items.lookup sessionId = some item →
    sessions.items.lookup sessionId = some item
  cursor : state.cursor = position.cursor
  key : ∀ last, position = .next (some last) →
    ∃ row ∈ index.rows sessions.items userId, row.key = last
  once : (state.ids reader).Nodup
  returned : ∀ sessionId ∈ state.ids reader,
    ∃ row ∈ position.read index userId sessions.items, row.key.sessionId = sessionId
  read : ∀ row ∈ position.read index userId state.sessions.items,
    row.key.sessionId ∈ state.ids reader
  calls : calls ≤ (position.read index userId sessions.items).length +
    if state.cursor = .ended then 1 else 0

theorem Walked.start :
    Walked index userId sessions 0 (Walk.start sessions : Walk reader.Record) (.next none) where
  within _ _ held := held
  cursor := rfl
  key _ same := nomatch same
  once := List.nodup_nil
  returned _ member := nomatch member
  read _ member := nomatch member
  calls := Nat.zero_le _

theorem Walked.delete {calls : ℕ} (walked : Walked index userId sessions calls state position)
    (sessionId : String) :
    Walked index userId sessions calls
      { state with sessions := state.sessions.delete sessionId } position := by
  have fewer : ∀ other item, (state.sessions.delete sessionId).items.lookup other = some item →
      state.sessions.items.lookup other = some item := by
    intro other item held
    by_cases same : other = sessionId
    · subst same
      have gone : (state.sessions.delete other).items.lookup other = none :=
        AList.lookup_erase other state.sessions.items
      cases gone.symm.trans held
    · exact (AList.lookup_erase_ne same).symm.trans held
  exact { walked with
    within := fun other item held => walked.within other item (fewer other item held)
    read := fun row member =>
      walked.read row (mem_read.mpr ((mem_read.mp member).imp_left (rows_subset fewer))) }

/-! ## A page -/

/-- The start key after a row that is there is its key. -/
theorem startKey_eq (held : table.lookup row.key.sessionId = some row.item)
    (owned : OwnedBy userId row.item)
    (created : str? row.item "created_at" = some row.key.createdAt) :
    reader.startKey userId table (some row.key.sessionId) = .ok (some row.key) := by
  cases reader with
  | queryApi =>
      rw [Reader.startKey, SessionReader.startKey, held]
      dsimp only
      rw [if_pos owned, created]
  | sessionManager =>
      have text : row.item.lookup "created_at" = some (.str row.key.createdAt) := by
        unfold str? at created
        split at created
        · rename_i found
          cases created
          exact found
        · cases created
      rw [Reader.startKey, SessionManager.SessionStore.startKey, held]
      dsimp only
      rw [if_pos owned, text]

theorem startKey_none : reader.startKey userId table none = .ok none := by
  cases reader <;> rfl

/-- The call makes records of the rows of a page. -/
theorem listForUser_eq {cursor : Option String}
    (start : reader.startKey userId table cursor = .ok last) :
    reader.listForUser pydantic index userId table cursor stop =
      ((index.query table userId last stop).mapM fun row => reader.fromDynamo pydantic row.item).map
        fun records => (records, stop.map IndexKey.sessionId) := by
  cases reader with
  | sessionManager =>
      have key : SessionManager.SessionStore.startKey table userId cursor = .ok last := start
      rw [Reader.listForUser, SessionManager.SessionStore.listForUser, key]
      rfl
  | queryApi =>
      have key : SessionReader.startKey table userId cursor = .ok last := start
      rw [Reader.listForUser, SessionReader.listForUser, key]
      rfl

/-- The record has the id of its item. -/
theorem sessionId_of_fromDynamo {item : Item} {record : reader.Record}
    (read : reader.fromDynamo pydantic item = .ok record) :
    str? item "session_id" = some (reader.sessionId record) := by
  cases reader with
  | sessionManager => exact (SessionManager.texts_of_fromDynamo read).1
  | queryApi => exact (texts_of_fromDynamo read).1

/-- The records of rows have their ids. -/
theorem ids_of_mapM {rows : List IndexRow} {records : List reader.Record}
    (named : ∀ row ∈ rows, str? row.item "session_id" = some row.key.sessionId)
    (read : (rows.mapM fun row => reader.fromDynamo pydantic row.item) = .ok records) :
    records.map reader.sessionId = rows.map fun row => row.key.sessionId := by
  induction rows generalizing records with
  | nil =>
      cases read
      rfl
  | cons row rest ih =>
      rw [List.mapM_cons] at read
      obtain ⟨record, first, read⟩ := Except.bind_eq_ok.mp read
      obtain ⟨others, rest, same⟩ := Except.bind_eq_ok.mp read
      cases same
      have id := (sessionId_of_fromDynamo first).symm.trans (named row List.mem_cons_self)
      rw [List.map_cons, List.map_cons, Option.some.inj id,
        ih (fun other member => named other (List.mem_cons_of_mem _ member)) rest]

/-- Rows of a page are among those that there were. -/
theorem query_subset (within : ∀ sessionId item, table.lookup sessionId = some item →
      other.lookup sessionId = some item) (member : row ∈ index.query table userId last stop) :
    row ∈ index.query other userId last stop :=
  UserSessionsIndex.mem_query.mpr
    ((UserSessionsIndex.mem_query.mp member).imp_left (rows_subset within))

theorem nodup_page : ((index.query table userId last stop).map fun row => row.key.sessionId).Nodup := by
  refine List.Nodup.map_on (fun first member second other same => ?_)
    (UserSessionsIndex.nodup_rows.filter _)
  exact UserSessionsIndex.row_eq_of_key (UserSessionsIndex.mem_query.mp member).1
    (UserSessionsIndex.mem_query.mp other).1 same

/-- The service can go on after its cursor as long as the session of the cursor is there. -/
theorem Walked.startKey {calls limit : ℕ}
    (walked : Walked index userId sessions calls state (.next last))
    (anchored : Anchored state (.list limit stop)) :
    reader.startKey userId state.sessions.items (last.map IndexKey.sessionId) = .ok last := by
  cases last with
  | none => exact startKey_none
  | some key =>
      obtain ⟨row, member, rfl⟩ := walked.key key rfl
      obtain ⟨held, owned, created⟩ := UserSessionsIndex.lookup_of_mem_rows member
      rw [Anchored, walked.cursor] at anchored
      obtain ⟨item, there⟩ := Option.isSome_iff_exists.mp anchored
      cases held.symm.trans (walked.within _ _ there)
      exact startKey_eq there owned created

/-- A page brings the client past its rows. -/
theorem Walked.page {calls limit : ℕ}
    (walked : Walked index userId sessions calls state (.next last)) {records : List reader.Record}
    (stops : index.Stops (index.query state.sessions.items userId last none) limit stop)
    (ids : records.map reader.sessionId =
      (index.query state.sessions.items userId last stop).map fun row => row.key.sessionId) :
    Walked index userId sessions (calls + 1)
      { state with
        cursor := (Position.after stop).cursor
        returned := state.returned ++ records } (.after stop) := by
  let := index.order
  have stopped : ∀ key ∈ stop, ∃ row ∈ index.query state.sessions.items userId last stop,
      row.key = key := by
    rintro key ⟨rfl⟩
    obtain ⟨⟨row, member, rfl⟩, -⟩ := stops
    obtain ⟨held, after, -⟩ := UserSessionsIndex.mem_query.mp member
    refine ⟨row, UserSessionsIndex.mem_query.mpr ⟨held, after, ?_⟩, rfl⟩
    rintro _ ⟨rfl⟩
    exact le_refl row.key
  have later : ∀ key ∈ stop, ∀ bound ∈ last, index.order.lt bound key := by
    intro key member
    obtain ⟨row, page, rfl⟩ := stopped key member
    exact (UserSessionsIndex.mem_query.mp page).2.1
  have appended : Walk.ids reader { state with
      cursor := (Position.after stop).cursor
      returned := state.returned ++ records } = state.ids reader ++
        (index.query state.sessions.items userId last stop).map fun row => row.key.sessionId := by
    rw [Walk.ids, List.map_append, ids, Walk.ids]
  refine ⟨walked.within, rfl, ?_, ?_, ?_, ?_, ?_⟩
  · intro key same
    cases stop with
    | none => cases same
    | some stop =>
        cases same
        obtain ⟨row, member, same⟩ := stopped key rfl
        exact ⟨row, rows_subset walked.within (UserSessionsIndex.mem_query.mp member).1, same⟩
  · rw [appended]
    refine List.Nodup.append walked.once nodup_page fun sessionId before now => ?_
    -- a session that was returned before has a key up to the start of the page
    obtain ⟨row, read, rfl⟩ := walked.returned sessionId before
    obtain ⟨again, member, same⟩ := List.mem_map.mp now
    obtain ⟨there, covered⟩ := mem_read.mp read
    obtain ⟨held, after, -⟩ := UserSessionsIndex.mem_query.mp member
    cases UserSessionsIndex.row_eq_of_key (rows_subset walked.within held) there same
    cases last with
    | none => exact covered
    | some bound => exact not_le_of_gt (after bound rfl) covered
  · intro sessionId member
    rw [appended, List.mem_append] at member
    rcases member with before | now
    · obtain ⟨row, read, same⟩ := walked.returned sessionId before
      refine ⟨row, ?_, same⟩
      rw [← read_append later]
      exact List.mem_append_left _ read
    · obtain ⟨row, member, same⟩ := List.mem_map.mp now
      refine ⟨row, ?_, same⟩
      rw [← read_append later]
      exact List.mem_append_right _ (query_subset walked.within member)
  · intro row member
    rw [appended, List.mem_append]
    rw [← read_append later, List.mem_append] at member
    rcases member with before | now
    · exact Or.inl (walked.read row before)
    · exact Or.inr (List.mem_map.mpr ⟨row, now, rfl⟩)
  · have before := walked.calls
    rw [walked.cursor, Position.cursor, if_neg (fun same => nomatch same)] at before
    rw [← read_append later, List.length_append]
    cases stop with
    | none =>
        rw [Position.after, Position.cursor, if_pos rfl]
        omega
    | some key =>
        obtain ⟨row, member, -⟩ := stopped key rfl
        have some := List.length_pos_of_mem (query_subset walked.within member)
        omega

theorem Walked.list {calls limit : ℕ} (walked : Walked index userId sessions calls state position)
    (reads : ReadsAll pydantic userId reader sessions) (anchored : Anchored state (.list limit stop))
    (taken : step pydantic index userId reader state (.list limit stop) = some after) :
    ∃ next, Walked index userId sessions (calls + 1) after next := by
  cases position with
  | ended =>
      rw [step, walked.cursor] at taken
      cases taken
  | next last =>
      have start := walked.startKey anchored
      simp only [step, walked.cursor, Position.cursor] at taken
      rw [listForUser_eq start] at taken
      split at taken
      case isFalse => cases taken
      case isTrue may =>
        rw [start] at may
        have read : ((index.query state.sessions.items userId last stop).mapM fun row =>
            reader.fromDynamo pydantic row.item).isOk = true := by
          refine Except.isOk_mapM_iff.mpr fun row member => ?_
          obtain ⟨held, owned, -⟩ := UserSessionsIndex.lookup_of_mem_rows
            (UserSessionsIndex.mem_query.mp member).1
          exact (reads _ _ (walked.within _ _ held) owned).1
        obtain ⟨records, read⟩ := Except.exists_of_isOk read
        have named : ∀ row ∈ index.query state.sessions.items userId last stop,
            str? row.item "session_id" = some row.key.sessionId := by
          intro row member
          exact state.sessions.keyed _ _ (UserSessionsIndex.lookup_of_mem_rows
            (UserSessionsIndex.mem_query.mp member).1).1
        rw [read] at taken
        cases taken
        have cursor : (if stop.map IndexKey.sessionId = none then Cursor.ended
            else .next (stop.map IndexKey.sessionId)) = (Position.after stop).cursor := by
          cases stop <;> rfl
        refine ⟨.after stop, ?_⟩
        rw [cursor]
        exact walked.page (may last rfl) (ids_of_mapM named read)

/-- Where the invariant holds, nothing has been returned twice, and nothing is missing at the
end. -/
theorem Walked.pagedOnce {calls : ℕ} (walked : Walked index userId sessions calls state position)
    (reads : ReadsAll pydantic userId reader sessions) : PagedOnce userId reader state where
  once := walked.once
  all ended sessionId item held owned := by
    obtain ⟨createdAt, created⟩ := Option.isSome_iff_exists.mp
      (reads sessionId item (walked.within sessionId item held) owned).2
    have member : (⟨⟨createdAt, sessionId⟩, item⟩ : IndexRow) ∈
        index.rows state.sessions.items userId :=
      UserSessionsIndex.mem_rows.mpr ⟨sessionId, item, held,
        UserSessionsIndex.indexRow?_eq_some.mpr ⟨owned, created, rfl, rfl⟩⟩
    refine walked.read _ (mem_read.mpr ⟨member, ?_⟩)
    have here := walked.cursor.symm.trans ended
    cases position with
    | next last => cases here
    | ended => exact True.intro

/-- The number of calls of a run. -/
def calls (actions : List Action) : ℕ := actions.countP Action.isList

theorem calls_concat (past : List Action) (action : Action) :
    calls (past ++ [action]) = calls past + if action.isList then 1 else 0 := by
  rw [calls, List.countP_append, List.countP_singleton]
  rfl

/-! ## The law -/

/-- **Pages under deletion.** Where the service reads all sessions of the user, and in every run in
which the session of a cursor is there when the client calls with it, no session is returned twice,
none that stays is left out, and the client is done after as many calls as there are sessions and
one more. -/
theorem pagedOnce_of_anchored (reader : Reader) (pydantic : Pydantic) (index : UserSessionsIndex)
    (userId : String) (sessions : KeyedSessions) (actions : List Action)
    (final : Walk reader.Record) (reads : ReadsAll pydantic userId reader sessions)
    (meets : Meets (step pydantic index userId reader) (fun _ => Anchored) [] (.start sessions)
      actions)
    (run : execute (step pydantic index userId reader) (.start sessions) actions = some final) :
    PagedOnce userId reader final ∧ calls actions ≤ (index.rows sessions.items userId).length + 1 := by
  have walked : ∃ position, Walked index userId sessions (calls actions) final position := by
    refine execute_induction (motive := fun past state =>
      ∃ position, Walked index userId sessions (calls past) state position) ⟨_, Walked.start⟩
      (fun past before action after _ walked anchored taken => ?_) meets run
    obtain ⟨position, walked⟩ := walked
    rw [calls_concat]
    cases action with
    | delete sessionId =>
        cases taken
        exact ⟨position, walked.delete sessionId⟩
    | list limit stop => exact walked.list reads anchored taken
  obtain ⟨position, walked⟩ := walked
  refine ⟨walked.pagedOnce reads, walked.calls.trans (Nat.add_le_add ?_ ?_)⟩
  · cases position with
    | ended => exact Nat.le_refl _
    | next last =>
        cases last with
        | none => exact Nat.zero_le _
        | some last => exact List.length_filter_le _ _
  · split
    · exact Nat.le_refl 1
    · exact Nat.zero_le 1

/-! ## Three sessions -/

/-- Pydantic on the times and integers of the samples. -/
def samplePydantic : Pydantic where
  datetime
    | .str _ => some 1778457600
    | _ => none
  int := PyJson.int?

/-- A session of the user that both services read. -/
def sampleItem (sessionId createdAt : String) : Item :=
  [("session_id", .str sessionId), ("user_id", .str "u-1"), ("status", .str "active"),
    ("language", .str "en"), ("created_at", .str createdAt), ("updated_at", .str createdAt),
    ("ttl_epoch_seconds", .int 1778486400)]

/-- Three sessions, the last of which is the newest. -/
def sampleTable : SessionsTable :=
  AList.insert "s-3" (sampleItem "s-3" "2026-05-13")
    (AList.insert "s-2" (sampleItem "s-2" "2026-05-12")
      (AList.insert "s-1" (sampleItem "s-1" "2026-05-11") ∅))

theorem sampleTable_all {predicate : String → Item → Prop}
    (first : predicate "s-1" (sampleItem "s-1" "2026-05-11"))
    (second : predicate "s-2" (sampleItem "s-2" "2026-05-12"))
    (third : predicate "s-3" (sampleItem "s-3" "2026-05-13")) :
    sampleTable.All predicate :=
  ((Table.All.empty.insert first).insert second).insert third

def sampleSessions : KeyedSessions := ⟨sampleTable, sampleTable_all rfl rfl rfl⟩

theorem readsAll_sample (reader : Reader) :
    ReadsAll samplePydantic "u-1" reader sampleSessions := by
  cases reader <;> exact sampleTable_all (fun _ => ⟨rfl, rfl⟩) (fun _ => ⟨rfl, rfl⟩)
    fun _ => ⟨rfl, rfl⟩

/-- Pages of one session each. A session goes that has been returned. -/
def sampleRun : List Action :=
  [.list 1 (some ⟨"2026-05-13", "s-3"⟩), .list 1 (some ⟨"2026-05-12", "s-2"⟩), .delete "s-3",
    .list 1 none]

/-- The same, but that the session of the cursor goes. -/
def restartedRun : List Action :=
  [.list 1 (some ⟨"2026-05-13", "s-3"⟩), .list 1 (some ⟨"2026-05-12", "s-2"⟩), .delete "s-2",
    .list 1 (some ⟨"2026-05-13", "s-3"⟩)]

/-- The ids that the client has been returned when the run ends. -/
def returnedIds (reader : Reader) (actions : List Action) : Option (List String) :=
  (execute (step samplePydantic .newestFirst "u-1" reader) (.start sampleSessions) actions).map
    (Walk.ids reader)

/-- All sessions are returned, as the session of each cursor is there. -/
theorem pagedOnce_sample :
    ∃ final, execute (step samplePydantic .newestFirst "u-1" .queryApi) (.start sampleSessions)
        sampleRun = some final ∧
      Walk.ids .queryApi final = ["s-3", "s-2", "s-1"] ∧ PagedOnce "u-1" .queryApi final := by
  have returned : returnedIds .queryApi sampleRun = some ["s-3", "s-2", "s-1"] := by
    decide +kernel
  have meets : Meets (step samplePydantic .newestFirst "u-1" .queryApi) (fun _ => Anchored) []
      (.start sampleSessions) sampleRun := by
    decide +kernel
  obtain ⟨final, run, ids⟩ := Option.map_eq_some_iff.mp returned
  exact ⟨final, run, ids, (pagedOnce_of_anchored .queryApi samplePydantic .newestFirst "u-1"
    sampleSessions sampleRun final (readsAll_sample .queryApi) meets run).1⟩

/-- Both services return a session again once the session of a cursor has gone. -/
theorem restarted_twice :
    (∃ final, execute (step samplePydantic .newestFirst "u-1" .sessionManager)
        (.start sampleSessions) restartedRun = some final ∧
      ¬ PagedOnce "u-1" .sessionManager final) ∧
    ∃ final, execute (step samplePydantic .newestFirst "u-1" .queryApi)
        (.start sampleSessions) restartedRun = some final ∧ ¬ PagedOnce "u-1" .queryApi final := by
  have again : ¬ ["s-3", "s-2", "s-3"].Nodup := by decide
  constructor
  · have returned : returnedIds .sessionManager restartedRun = some ["s-3", "s-2", "s-3"] := by
      decide +kernel
    obtain ⟨final, run, ids⟩ := Option.map_eq_some_iff.mp returned
    exact ⟨final, run, fun paged => again (ids ▸ paged.once)⟩
  · have returned : returnedIds .queryApi restartedRun = some ["s-3", "s-2", "s-3"] := by
      decide +kernel
    obtain ⟨final, run, ids⟩ := Option.map_eq_some_iff.mp returned
    exact ⟨final, run, fun paged => again (ids ▸ paged.once)⟩

end Panakoes.QueryApi.SessionPages
