import Mathlib.Data.List.Perm.Subperm
import Panakoes.Streaming.AdminStop
import Panakoes.Streaming.SessionsTable

/-! # Blocking the sessions of a user

The handler of `block-user-sessions` asks `UserSessionsIndex` once for the sessions of the user
and updates those whose status is one of three. A session is left as it is if the index does not
hold it, if it comes after the page that the query returns, or if it has another status.
-/

namespace Panakoes.AdminApi.BlockUserSessions

open DynamoItem Streaming
open AdminStop (statusOf statusOf_update blockable)

/-! ## The handler -/

/-- What the handler returns. -/
structure BlockResult where
  userId : String
  affectedCount : ℕ
  blockedSessionIds : List String
  skippedCount : ℕ
  noop : Bool
  deriving DecidableEq

/-- What the handler raises. -/
inductive BlockError where
  | valueError (message : String)
  | partialBlockFailure (userId : String) (blockedSessionIds : List String) (firstFailure : String)
      (totalAttempted : ℕ)
  | raised (error : String)
  deriving DecidableEq

/-- How an update of a row ends that is there: well, with the code of a `ClientError`, or with
another exception. An update that does not end well may have been applied. -/
inductive UpdateEnd where
  | ok
  | clientError (applied : Bool) (code : String)
  | raised (applied : Bool) (error : String)
  deriving DecidableEq

/-- The page that the query returns: the rows of the user in the order of the index, earlier
sessions first, up to `LastEvaluatedKey`. -/
def page (index : UserSessionsIndex) (table : SessionsTable) (userId : String)
    (stop : Option IndexKey) : List IndexRow :=
  (index.rows table userId).reverse.filter fun row => ∀ bound ∈ stop, index.order.le bound row.key

/-- `active`. -/
def active (items : List IndexRow) : List IndexRow :=
  items.filter fun row => statusOf row.item ∈ blockable

section Handler

variable (userId reason now : String) (ends : String → UpdateEnd) (total : ℕ)

/-- The loop over `active`, with `blocked_ids` and the table it leaves. -/
def blockEach (table : SessionsTable) (blockedIds : List String) :
    List IndexRow → Except BlockError (List String) × SessionsTable
  | [] => (.ok blockedIds, table)
  | row :: rest =>
      let sessionId := row.key.sessionId
      let failure code : BlockError :=
        .partialBlockFailure userId blockedIds s!"{code} updating {sessionId}" total
      match table.lookup sessionId with
      | none => (.error (failure "ConditionalCheckFailedException"), table)
      | some item =>
          let written := table.insert sessionId (AdminStop.Operation.block.update reason now item)
          match ends sessionId with
          | .ok => blockEach written (blockedIds ++ [sessionId]) rest
          | .clientError applied code => (.error (failure code), if applied then written else table)
          | .raised applied error => (.error (.raised error), if applied then written else table)

end Handler

/-- `handler`, with the table it leaves. The query ends with an exception or with a page. -/
def handler (index : UserSessionsIndex) (userId reason now : String)
    (query : Except String (Option IndexKey)) (ends : String → UpdateEnd) (table : SessionsTable) :
    Except BlockError BlockResult × SessionsTable :=
  let reason := AdminStop.pyStrip reason
  if reason = "" then (.error (.valueError "reason is required for block-user-sessions"), table)
  else
    match query with
    | .error error => (.error (.raised error), table)
    | .ok stop =>
        let items := page index table userId stop
        let active := active items
        if active = [] then (.ok ⟨userId, 0, [], items.length, true⟩, table)
        else
          match blockEach userId reason now ends active.length table [] active with
          | (.error error, written) => (.error error, written)
          | (.ok blockedIds, written) =>
              (.ok ⟨userId, blockedIds.length, blockedIds, items.length - active.length, false⟩,
                written)

/-! ## What is asked of it -/

/-- The statuses of a session that is not over, as the router, the spawner, the session manager
and the batch worker write them. -/
def liveStatuses : List String := ["connecting", "spawning-gpu", "starting", "active", "paused"]

/-- The ids of the rows of the user. -/
def userRows (table : SessionsTable) (userId : String) : List String :=
  (table.entries.filter fun entry => OwnedBy userId entry.2).map Sigma.fst

/-- No session of the user is live, and each of the user's rows has been counted. -/
structure Complete (table final : SessionsTable) (userId : String) (result : BlockResult) :
    Prop where
  stopped : ∀ sessionId item, final.lookup sessionId = some item → OwnedBy userId item →
    statusOf item ∉ liveStatuses
  counted : result.affectedCount + result.skippedCount = (userRows table userId).length

/-- The item is in the index, and the query reaches it. -/
def Listed (index : UserSessionsIndex) (stop : Option IndexKey) (sessionId : String) (item : Item) :
    Prop :=
  ∃ createdAt ∈ str? item "created_at", ∀ bound ∈ stop, index.order.le bound ⟨createdAt, sessionId⟩

/-- Every session of the user is on the page that the query returns, and has none of the live
statuses that the handler does not look for. -/
def Reachable (index : UserSessionsIndex) (stop : Option IndexKey) (table : SessionsTable)
    (userId : String) : Prop :=
  ∀ sessionId item, table.lookup sessionId = some item → OwnedBy userId item →
    Listed index stop sessionId item ∧ (statusOf item ∈ liveStatuses → statusOf item ∈ blockable)

/-! ## The page -/

section Page

variable {index : UserSessionsIndex} {table : SessionsTable} {userId : String}
  {stop : Option IndexKey}

theorem mem_page {row : IndexRow} : row ∈ page index table userId stop ↔
    row ∈ index.rows table userId ∧ ∀ bound ∈ stop, index.order.le bound row.key := by
  rw [page, List.mem_filter, List.mem_reverse, decide_eq_true_iff]

/-- A session is on the page if it is listed. -/
theorem mem_page_ids {sessionId : String} {item : Item}
    (held : table.lookup sessionId = some item) (owned : OwnedBy userId item) :
    sessionId ∈ (page index table userId stop).map (·.key.sessionId) ↔
      Listed index stop sessionId item := by
  rw [List.mem_map]
  constructor
  · intro ⟨row, member, same⟩
    obtain ⟨inRows, reached⟩ := mem_page.mp member
    obtain ⟨found, -, created⟩ := UserSessionsIndex.lookup_of_mem_rows inRows
    obtain ⟨⟨createdAt, rowId⟩, rowItem⟩ := row
    cases same
    cases held.symm.trans found
    exact ⟨createdAt, created, reached⟩
  · intro ⟨createdAt, created, reached⟩
    refine ⟨⟨⟨createdAt, sessionId⟩, item⟩, mem_page.mpr ⟨?_, reached⟩, rfl⟩
    apply UserSessionsIndex.mem_rows.mpr
    exact ⟨sessionId, item, held,
      UserSessionsIndex.indexRow?_eq_some.mpr ⟨owned, created, rfl, rfl⟩⟩

theorem nodup_page_ids : ((page index table userId stop).map (·.key.sessionId)).Nodup := by
  apply List.Nodup.map_on
  · intro first member second other same
    exact UserSessionsIndex.row_eq_of_key (mem_page.mp member).1 (mem_page.mp other).1 same
  · exact (List.nodup_reverse.mpr UserSessionsIndex.nodup_rows).filter _

theorem mem_userRows {sessionId : String} : sessionId ∈ userRows table userId ↔
    ∃ item, table.lookup sessionId = some item ∧ OwnedBy userId item := by
  rw [userRows, List.mem_map]
  constructor
  · intro ⟨entry, member, same⟩
    obtain ⟨held, owned⟩ := List.mem_filter.mp member
    cases same
    exact ⟨entry.2, AList.mem_lookup_iff.mpr held, of_decide_eq_true owned⟩
  · intro ⟨item, held, owned⟩
    exact ⟨⟨sessionId, item⟩,
      List.mem_filter.mpr ⟨AList.mem_lookup_iff.mp held, decide_eq_true owned⟩, rfl⟩

theorem nodup_userRows : (userRows table userId).Nodup := by
  have keys : (table.entries.map Sigma.fst).Nodup := table.nodupKeys
  exact keys.sublist (List.filter_sublist.map _)

/-- The page has as many rows as the user if and only if it has all of them. -/
theorem length_page_iff :
    (page index table userId stop).length = (userRows table userId).length ↔
      ∀ sessionId item, table.lookup sessionId = some item → OwnedBy userId item →
        Listed index stop sessionId item := by
  have subset : (page index table userId stop).map (·.key.sessionId) ⊆ userRows table userId := by
    intro sessionId member
    obtain ⟨row, onPage, same⟩ := List.mem_map.mp member
    obtain ⟨held, owned, -⟩ := UserSessionsIndex.lookup_of_mem_rows (mem_page.mp onPage).1
    cases same
    exact mem_userRows.mpr ⟨row.item, held, owned⟩
  have subperm := List.subperm_of_subset nodup_page_ids subset
  rw [← List.length_map (·.key.sessionId)]
  constructor
  · intro same sessionId item held owned
    have perm := subperm.perm_of_length_le same.ge
    exact (mem_page_ids held owned).mp (perm.mem_iff.mpr (mem_userRows.mpr ⟨item, held, owned⟩))
  · intro listed
    have superset : userRows table userId ⊆
        (page index table userId stop).map (·.key.sessionId) := by
      intro sessionId member
      obtain ⟨item, held, owned⟩ := mem_userRows.mp member
      exact (mem_page_ids held owned).mpr (listed sessionId item held owned)
    exact (subperm.antisymm (List.subperm_of_subset nodup_userRows superset)).length_eq

end Page

/-! ## What is written -/

/-- The rows with the ids have been stopped, and the others are as they were. -/
structure Stops (table final : SessionsTable) (ids : List String) : Prop where
  stopped : ∀ sessionId ∈ ids, ∀ item ∈ final.lookup sessionId, statusOf item = "errored"
  kept : ∀ sessionId ∉ ids, final.lookup sessionId = table.lookup sessionId

section Loop

variable {userId reason now : String} {ends : String → UpdateEnd} {total : ℕ}
  {table final : SessionsTable} {ids : List String} {rows : List IndexRow}

theorem Stops.refl : Stops table table [] where
  stopped := fun _ member => absurd member List.not_mem_nil
  kept := fun _ _ => rfl

/-- A row is stopped before others are. -/
theorem Stops.cons {sessionId : String} {item : Item}
    (later : Stops (table.insert sessionId (AdminStop.Operation.block.update reason now item)) final
      ids) : Stops table final (sessionId :: ids) where
  stopped other member found stored := by
    by_cases again : other ∈ ids
    · exact later.stopped other again found stored
    · have same : other = sessionId := (List.mem_cons.mp member).resolve_right again
      subst same
      rw [later.kept other again, AList.lookup_insert] at stored
      cases stored
      exact statusOf_update _ _ _
  kept other absent := by
    have different : other ≠ sessionId := fun same => absent (List.mem_cons.mpr (Or.inl same))
    rw [later.kept other fun member => absent (List.mem_cons_of_mem _ member),
      AList.lookup_insert_ne different]

/-- A loop that ends well has stopped each of the rows. -/
theorem blockEach_ok {blockedIds all : List String}
    (ended : blockEach userId reason now ends total table blockedIds rows = (.ok all, final)) :
    all = blockedIds ++ rows.map (·.key.sessionId) ∧
      Stops table final (rows.map (·.key.sessionId)) := by
  induction rows generalizing blockedIds table with
  | nil =>
      cases ended
      exact ⟨(List.append_nil _).symm, .refl⟩
  | cons row rest ih =>
      simp only [blockEach] at ended
      split at ended
      · cases ended
      · split at ended
        · obtain ⟨blocked, stops⟩ := ih ended
          refine ⟨?_, stops.cons⟩
          rw [blocked, List.append_assoc]
          rfl
        · cases ended
        · cases ended

end Loop

/-! ## When the operation is complete -/

variable {index : UserSessionsIndex} {userId reason now : String} {stop : Option IndexKey}
  {ends : String → UpdateEnd} {table final : SessionsTable} {result : BlockResult}

/-- An operation that succeeds has counted the rows of the page and stopped the active ones. -/
theorem handler_ok
    (succeeds : handler index userId reason now (.ok stop) ends table = (.ok result, final)) :
    result.affectedCount + result.skippedCount = (page index table userId stop).length ∧
      Stops table final ((active (page index table userId stop)).map (·.key.sessionId)) := by
  simp only [handler] at succeeds
  split at succeeds
  · cases succeeds
  · split at succeeds
    · rename_i none
      cases succeeds
      rw [none]
      exact ⟨Nat.zero_add _, .refl⟩
    · split at succeeds
      · cases succeeds
      · rename_i blockedIds written ended
        cases succeeds
        obtain ⟨blocked, stops⟩ := blockEach_ok ended
        refine ⟨?_, stops⟩
        rw [blocked, List.nil_append, List.length_map]
        exact Nat.add_sub_of_le (List.length_filter_le _ _)

/-- A session is stopped if it is listed and has one of the statuses. -/
theorem mem_active_ids {sessionId : String} {item : Item}
    (held : table.lookup sessionId = some item) (owned : OwnedBy userId item) :
    sessionId ∈ (active (page index table userId stop)).map (·.key.sessionId) ↔
      Listed index stop sessionId item ∧ statusOf item ∈ blockable := by
  have itemOf : ∀ row ∈ page index table userId stop, row.key.sessionId = sessionId →
      row.item = item := by
    intro row onPage same
    obtain ⟨found, -⟩ := UserSessionsIndex.lookup_of_mem_rows (mem_page.mp onPage).1
    rw [same] at found
    exact Option.some.inj (found.symm.trans held)
  rw [← mem_page_ids held owned, List.mem_map, List.mem_map]
  constructor
  · intro ⟨row, member, same⟩
    obtain ⟨onPage, status⟩ := List.mem_filter.mp member
    exact ⟨⟨row, onPage, same⟩, itemOf row onPage same ▸ of_decide_eq_true status⟩
  · intro ⟨⟨row, onPage, same⟩, status⟩
    rw [← itemOf row onPage same] at status
    exact ⟨row, List.mem_filter.mpr ⟨onPage, decide_eq_true status⟩, same⟩

/-- **Completeness.** An operation that succeeds has left no live session of the user, and has
counted all the user's rows, if and only if the query reaches each of them and none has a live
status that the handler does not look for. -/
theorem complete_iff
    (succeeds : handler index userId reason now (.ok stop) ends table = (.ok result, final)) :
    Complete table final userId result ↔ Reachable index stop table userId := by
  obtain ⟨counted, stops⟩ := handler_ok succeeds
  constructor
  · intro complete sessionId item held owned
    have listed := length_page_iff.mp (counted.symm.trans complete.counted)
    refine ⟨listed sessionId item held owned, fun live => ?_⟩
    by_contra other
    have absent : sessionId ∉ (active (page index table userId stop)).map (·.key.sessionId) :=
      fun member => other ((mem_active_ids held owned).mp member).2
    exact complete.stopped sessionId item ((stops.kept sessionId absent).trans held) owned live
  · intro reachable
    refine ⟨fun sessionId item stored owned live => ?_, ?_⟩
    · by_cases member : sessionId ∈ (active (page index table userId stop)).map (·.key.sessionId)
      · rw [stops.stopped sessionId member item stored] at live
        exact absurd live (by decide)
      · have held := (stops.kept sessionId member).symm.trans stored
        obtain ⟨listed, known⟩ := reachable sessionId item held owned
        exact member ((mem_active_ids held owned).mpr ⟨listed, known live⟩)
    · refine counted.trans (length_page_iff.mpr fun sessionId item held owned => ?_)
      exact (reachable sessionId item held owned).1

/-! ## A session of the session manager, and one of the router -/

/-- A session of the user as the session manager puts it, and one that is over. -/
def managedSessions : SessionsTable :=
  ((∅ : SessionsTable).insert "s-1" [("session_id", .str "s-1"), ("user_id", .str "u-1"),
    ("status", .str "active"), ("created_at", .str "2026-05-11T00:00:00+00:00")]).insert "s-2"
    [("session_id", .str "s-2"), ("user_id", .str "u-1"), ("status", .str "completed"),
      ("created_at", .str "2026-05-11T01:00:00+00:00")]

/-- Both are counted, and none is live. -/
theorem managedSessions_complete :
    ∃ result final, handler .newestFirst "u-1" "drill" "2026-05-11T02:00:00+00:00" (.ok none)
        (fun _ => .ok) managedSessions = (.ok result, final) ∧
      result = ⟨"u-1", 1, ["s-1"], 1, false⟩ ∧ Complete managedSessions final "u-1" result := by
  have reachable : Reachable .newestFirst none managedSessions "u-1" := by
    intro sessionId item held _
    obtain ⟨rfl, rfl⟩ | ⟨-, before⟩ := Table.lookup_insert_cases held
    · refine ⟨⟨_, rfl, fun _ wrong => by cases wrong⟩, ?_⟩
      decide
    · obtain ⟨rfl, rfl⟩ | ⟨-, empty⟩ := Table.lookup_insert_cases before
      · refine ⟨⟨_, rfl, fun _ wrong => by cases wrong⟩, ?_⟩
        decide
      · cases empty
  obtain ⟨result, final, succeeds, counts⟩ : ∃ result final, handler .newestFirst "u-1" "drill"
      "2026-05-11T02:00:00+00:00" (.ok none) (fun _ => .ok) managedSessions = (.ok result, final) ∧
        result = ⟨"u-1", 1, ["s-1"], 1, false⟩ := ⟨_, _, rfl, rfl⟩
  exact ⟨result, final, succeeds, counts, (complete_iff succeeds).mpr reachable⟩

/-- A session of the user as the router puts it and the spawner updates it. -/
def connectedSessions : SessionsTable :=
  (∅ : SessionsTable).insert "c-1"
    (sessionItem "c-1"
      ⟨"u-1", "t-1", "user", "2026-05-11T00:00:00Z", 1778457600, none, none⟩ [.spawn "queue-3" 3])

/-- The index does not hold it: the operation succeeds with no session, and it goes on. -/
theorem connectedSessions_missed :
    handler .newestFirst "u-1" "drill" "2026-05-11T02:00:00+00:00" (.ok none) (fun _ => .ok)
        connectedSessions = (.ok ⟨"u-1", 0, [], 0, true⟩, connectedSessions) ∧
      ¬ Complete connectedSessions connectedSessions "u-1" ⟨"u-1", 0, [], 0, true⟩ := by
  refine ⟨rfl, fun complete => ?_⟩
  apply complete.stopped "c-1" _ rfl rfl
  decide

end Panakoes.AdminApi.BlockUserSessions
