import Mathlib.Data.Prod.Lex
import Mathlib.Data.String.Basic
import Panakoes.Foundation.DynamoItem
import Panakoes.Foundation.PagedQuery
import Panakoes.Foundation.Table

/-! # The table of streaming sessions

Items by their `session_id`, with the index `UserSessionsIndex` by user and time of creation. The
session manager and the query API read both, each with a record of its own.
-/

namespace Panakoes.Streaming

open DynamoItem

/-- The items of the table. -/
abbrev SessionsTable := Table String Item

/-- What a read of sessions raises. -/
inductive SessionReadError where
  | validationError
  | keyError
  | clientError
  deriving DecidableEq

/-- How Pydantic reads a time and an integer. -/
structure Pydantic where
  datetime : PyJson → Option ℚ
  int : PyJson → Option ℤ

/-- An attribute of a field `str | None` whose default is `None`. -/
def optionalStr? (item : Item) (name : String) : Option (Option String) :=
  match item.lookup name with
  | none | some .none => some none
  | some (.str text) => some (some text)
  | _ => none

/-- The item is of the user. -/
def OwnedBy (userId : String) (item : Item) : Prop := str? item "user_id" = some userId

instance {userId : String} {item : Item} : Decidable (OwnedBy userId item) :=
  inferInstanceAs (Decidable (_ = _))

/-! ## The index -/

/-- The key of an item in the part of the index that is its user's. -/
structure IndexKey where
  createdAt : String
  sessionId : String
  deriving DecidableEq

/-- `UserSessionsIndex`, read with `ScanIndexForward=False`: later sessions come first, and
sessions of one time in an order of their own. -/
structure UserSessionsIndex where
  order : LinearOrder IndexKey
  descending : ∀ first second, order.lt first second → second.createdAt ≤ first.createdAt

/-- An item in the index. -/
structure IndexRow where
  key : IndexKey
  item : Item

/-- The row of an item of the user. Without a time of creation it has none. -/
def indexRow? (userId sessionId : String) (item : Item) : Option IndexRow :=
  if OwnedBy userId item then
    (str? item "created_at").map fun createdAt => ⟨⟨createdAt, sessionId⟩, item⟩
  else none

namespace UserSessionsIndex

variable (index : UserSessionsIndex) (table : SessionsTable) (userId : String)

/-- The rows of the user. -/
def rows : List IndexRow :=
  @PagedQuery.inOrder _ _ index.order IndexRow.key
    (table.entries.filterMap fun entry => indexRow? userId entry.1 entry.2)

/-- The rows of the user after `ExclusiveStartKey`, up to `LastEvaluatedKey`. -/
def query (start stop : Option IndexKey) : List IndexRow :=
  @PagedQuery.between _ _ index.order IndexRow.key start stop (index.rows table userId)

/-- Where a query of at most `limit` rows may stop when these rows are left: at the end, or at a row
that it has read. -/
def Stops (left : List IndexRow) (limit : ℕ) : Option IndexKey → Prop
  | none => left.length ≤ limit
  | some last => (∃ row ∈ left, row.key = last) ∧
      (@PagedQuery.between _ _ index.order IndexRow.key none (some last) left).length ≤ limit

instance (left : List IndexRow) (limit : ℕ) : ∀ stop, Decidable (index.Stops left limit stop)
  | none => inferInstanceAs (Decidable (_ ≤ _))
  | some _ => inferInstanceAs (Decidable ((∃ row ∈ left, row.key = _) ∧ _ ≤ _))

variable {index table userId}

theorem mem_rows {row : IndexRow} : row ∈ index.rows table userId ↔
    ∃ sessionId item, table.lookup sessionId = some item ∧
      indexRow? userId sessionId item = some row := by
  let := index.order
  rw [rows, PagedQuery.mem_inOrder, List.mem_filterMap]
  constructor
  · rintro ⟨⟨sessionId, item⟩, member, found⟩
    exact ⟨sessionId, item, AList.mem_lookup_iff.mpr member, found⟩
  · rintro ⟨sessionId, item, held, found⟩
    exact ⟨⟨sessionId, item⟩, AList.mem_lookup_iff.mp held, found⟩

theorem indexRow?_eq_some {sessionId : String} {item : Item} {row : IndexRow} :
    indexRow? userId sessionId item = some row ↔
      OwnedBy userId item ∧ str? item "created_at" = some row.key.createdAt ∧
        row.key.sessionId = sessionId ∧ row.item = item := by
  unfold indexRow?
  split
  · rename_i owned
    rw [Option.map_eq_some_iff]
    constructor
    · rintro ⟨createdAt, read, rfl⟩
      exact ⟨owned, read, rfl, rfl⟩
    · rintro ⟨-, read, rfl, rfl⟩
      exact ⟨_, read, rfl⟩
  · rename_i foreign
    exact iff_of_false (fun same => nomatch same) fun held => foreign held.1

/-- A row of the user is an item of the user under its own id. -/
theorem lookup_of_mem_rows {row : IndexRow} (member : row ∈ index.rows table userId) :
    table.lookup row.key.sessionId = some row.item ∧ OwnedBy userId row.item ∧
      str? row.item "created_at" = some row.key.createdAt := by
  obtain ⟨sessionId, item, held, found⟩ := mem_rows.mp member
  obtain ⟨owned, created, rfl, rfl⟩ := indexRow?_eq_some.mp found
  exact ⟨held, owned, created⟩

/-- The key tells the rows apart. -/
theorem row_eq_of_key {first second : IndexRow} (member : first ∈ index.rows table userId)
    (other : second ∈ index.rows table userId)
    (same : first.key.sessionId = second.key.sessionId) : first = second := by
  obtain ⟨held, -, created⟩ := lookup_of_mem_rows member
  obtain ⟨otherHeld, -, otherCreated⟩ := lookup_of_mem_rows other
  obtain ⟨⟨createdAt, sessionId⟩, item⟩ := first
  obtain ⟨⟨otherCreatedAt, otherId⟩, otherItem⟩ := second
  cases same
  cases held.symm.trans otherHeld
  cases created.symm.trans otherCreated
  rfl

theorem nodup_entries :
    (table.entries.filterMap fun entry => indexRow? userId entry.1 entry.2).Nodup := by
  refine List.Nodup.filterMap ?_ (table.nodupKeys.nodup)
  rintro ⟨sessionId, item⟩ ⟨otherId, otherItem⟩ row found other
  obtain ⟨-, -, rfl, rfl⟩ := indexRow?_eq_some.mp (Option.mem_def.mp found)
  obtain ⟨-, -, rfl, rfl⟩ := indexRow?_eq_some.mp (Option.mem_def.mp other)
  rfl

theorem nodup_rows : (index.rows table userId).Nodup := by
  let := index.order
  exact (List.perm_insertionSort _ _).nodup_iff.mpr nodup_entries

theorem pairwise_rows :
    (index.rows table userId).Pairwise fun first second => index.order.le first.key second.key :=
  @PagedQuery.pairwise_inOrder _ _ index.order _ _

theorem mem_query {start stop : Option IndexKey} {row : IndexRow} :
    row ∈ index.query table userId start stop ↔ row ∈ index.rows table userId ∧
      (∀ bound ∈ start, index.order.lt bound row.key) ∧
        ∀ bound ∈ stop, index.order.le row.key bound :=
  @PagedQuery.mem_between _ _ index.order _ _ _ _ _

/-- Later sessions first, and sessions of one time by their ids. -/
def newestFirst : UserSessionsIndex where
  order := LinearOrder.lift' (fun key => toLex (OrderDual.toDual key.createdAt, key.sessionId))
    fun first second same => by
      cases first
      cases second
      cases same
      rfl
  descending first second before := by
    rcases Prod.Lex.lt_iff.mp before with earlier | ⟨same, -⟩
    · exact le_of_lt earlier
    · exact le_of_eq (OrderDual.toDual_inj.mp same).symm

end UserSessionsIndex

/-! ## Tables that agree on a user -/

/-- The tables hold the same items of the user. -/
def AgreeOn (userId : String) (first second : SessionsTable) : Prop :=
  ∀ sessionId item, OwnedBy userId item →
    (first.lookup sessionId = some item ↔ second.lookup sessionId = some item)

variable {userId : String} {first second : SessionsTable}

theorem AgreeOn.symm (agree : AgreeOn userId first second) : AgreeOn userId second first :=
  fun sessionId item owned => (agree sessionId item owned).symm

/-- An item of another user makes no difference. -/
theorem AgreeOn.insert {sessionId : String} {item : Item} (foreign : ¬ OwnedBy userId item)
    (absent : first.lookup sessionId = none) :
    AgreeOn userId first (first.insert sessionId item) := by
  intro other held owned
  by_cases same : other = sessionId
  · subst same
    rw [absent, AList.lookup_insert]
    refine iff_of_false (fun found => nomatch found) ?_
    rintro ⟨rfl⟩
    exact foreign owned
  · rw [AList.lookup_insert_ne same]

/-- The index holds the same rows of the user. -/
theorem AgreeOn.rows (agree : AgreeOn userId first second) (index : UserSessionsIndex) :
    index.rows first userId = index.rows second userId := by
  let := index.order
  refine PagedQuery.inOrder_congr UserSessionsIndex.nodup_entries UserSessionsIndex.nodup_entries
    (fun row => ?_) fun row member other otherMember same => ?_
  · have here := @UserSessionsIndex.mem_rows index first userId row
    have there := @UserSessionsIndex.mem_rows index second userId row
    rw [UserSessionsIndex.rows, PagedQuery.mem_inOrder] at here there
    rw [here, there]
    refine exists_congr fun sessionId => exists_congr fun item => ?_
    refine and_congr_left fun found => agree sessionId item ?_
    exact (UserSessionsIndex.indexRow?_eq_some.mp found).1
  · refine @UserSessionsIndex.row_eq_of_key index first userId row other
      (PagedQuery.mem_inOrder.mpr member) (PagedQuery.mem_inOrder.mpr otherMember) ?_
    rw [same]

end Panakoes.Streaming
