import Mathlib.Data.String.Basic
import Panakoes.Foundation.PagedQuery
import Panakoes.Foundation.Table

/-! # Listings with cursors

A listing of the items of a partition whose sort keys begin with a stem. It is read page by page: the
cursor of a page is what follows the stem in the sort key at which the page before it has stopped. The
store chooses where a page stops; a page may be empty and not the last.
-/

namespace CursorListing

/-- What follows the stem in a text that begins with it. -/
def after? (stem text : String) : Option String :=
  if stem.toList <+: text.toList then some (String.ofList (text.toList.drop stem.toList.length))
  else none

theorem after?_eq_some {stem text rest : String} :
    after? stem text = some rest ↔ text = stem ++ rest := by
  unfold after?
  constructor
  · intro found
    split at found
    · rename_i begins
      cases found
      obtain ⟨tail, same⟩ := begins
      apply String.toList_injective
      rw [String.toList_append, String.toList_ofList, ← same, List.drop_left]
    · cases found
  · rintro rfl
    rw [String.toList_append, if_pos (List.prefix_append _ _), List.drop_left, String.ofList_toList]

@[simp] theorem after?_append (stem rest : String) : after? stem (stem ++ rest) = some rest :=
  after?_eq_some.mpr rfl

/-- The order of the keys. -/
@[reducible] def ascending : LinearOrder String := inferInstance

/-- The reverse order of the keys. -/
@[reducible] def descending : LinearOrder String := inferInstanceAs (LinearOrder (OrderDual String))

/-- The records of the pages that a client reads by following the cursors, when the store stops them
at these keys and the last one at the end. -/
def follow {ε ρ : Type} (fetch : Option String → Option String → Except ε (List ρ × Option String))
    (cursor : Option String) : List String → Except ε (List ρ)
  | [] => do
      let (records, _) ← fetch cursor none
      return records
  | stop :: stops => do
      let (records, next) ← fetch cursor (some stop)
      match next with
      | none => return records
      | some cursor => return records ++ (← follow fetch (some cursor) stops)

/-- A listing: the order in which it is read, the stem, and what is made of an item. -/
structure Listing (ν ε ρ : Type) where
  order : LinearOrder String
  stem : String
  decode : ν → Except ε ρ

namespace Listing

variable {ν ε ρ : Type} (listing : Listing ν ε ρ) (table : Table (String × String) ν)
  (partition : String)

/-- The row of an item of the partition whose sort key begins with the stem. -/
def row? (key : String × String) (item : ν) : Option (String × ν) :=
  if key.1 = partition ∧ (after? listing.stem key.2).isSome then some (key.2, item) else none

/-- The rows by their sort keys, in the order of the listing. -/
def rows : List (String × ν) :=
  @PagedQuery.inOrder _ _ listing.order Prod.fst
    (table.entries.filterMap fun entry => listing.row? partition entry.1 entry.2)

/-- The rows after `ExclusiveStartKey`, up to `LastEvaluatedKey`. -/
def query (start stop : Option String) : List (String × ν) :=
  @PagedQuery.between _ _ listing.order Prod.fst start stop (listing.rows table partition)

/-- One page and the cursor of the next one. -/
def page (cursor stop : Option String) : Except ε (List ρ × Option String) := do
  let records ← (listing.query table partition (cursor.map (listing.stem ++ ·)) stop).mapM
    fun row => listing.decode row.2
  return (records, stop.bind (after? listing.stem))

/-- The records of the pages that are read by following the cursors. -/
def walk (cursor : Option String) (stops : List String) : Except ε (List ρ) :=
  follow (listing.page table partition) cursor stops

/-- The store may stop the pages of at most `limit` rows after `start` at these keys: a key of the
listing that is not before the start. -/
def Stops (limit : ℕ) : Option String → List String → Prop
  | start, [] => (listing.query table partition start none).length ≤ limit
  | start, stop :: stops =>
      (after? listing.stem stop).isSome ∧ (∀ bound ∈ start, listing.order.le bound stop) ∧
        (listing.query table partition start (some stop)).length ≤ limit ∧ Stops limit (some stop) stops

variable {listing table partition}

theorem row?_eq_some {key : String × String} {item : ν} {row : String × ν} :
    listing.row? partition key item = some row ↔
      key = (partition, row.1) ∧ item = row.2 ∧ (after? listing.stem row.1).isSome := by
  obtain ⟨pk, sk⟩ := key
  obtain ⟨name, value⟩ := row
  unfold row?
  split
  · rename_i within
    constructor
    · rintro ⟨⟩
      exact ⟨congrArg (·, sk) within.1, rfl, within.2⟩
    · rintro ⟨⟨⟩, rfl, -⟩
      rfl
  · rename_i without
    refine iff_of_false (fun same => nomatch same) ?_
    rintro ⟨⟨⟩, -, begins⟩
    exact without ⟨rfl, begins⟩

theorem mem_rows {row : String × ν} : row ∈ listing.rows table partition ↔
    table.lookup (partition, row.1) = some row.2 ∧ (after? listing.stem row.1).isSome := by
  let := listing.order
  rw [rows, PagedQuery.mem_inOrder, List.mem_filterMap]
  constructor
  · rintro ⟨⟨key, item⟩, member, found⟩
    obtain ⟨rfl, rfl, begins⟩ := row?_eq_some.mp found
    exact ⟨AList.mem_lookup_iff.mpr member, begins⟩
  · rintro ⟨held, begins⟩
    exact ⟨⟨(partition, row.1), row.2⟩, AList.mem_lookup_iff.mp held,
      row?_eq_some.mpr ⟨rfl, rfl, begins⟩⟩

theorem nodup_rows : (listing.rows table partition).Nodup := by
  let := listing.order
  refine (List.perm_insertionSort _ _).nodup_iff.mpr ?_
  refine List.Nodup.filterMap ?_ table.nodupKeys.nodup
  rintro ⟨key, item⟩ ⟨other, value⟩ row found same
  obtain ⟨rfl, rfl, -⟩ := row?_eq_some.mp (Option.mem_def.mp found)
  obtain ⟨rfl, rfl, -⟩ := row?_eq_some.mp (Option.mem_def.mp same)
  rfl

/-- The keys of the rows are strictly in order. -/
theorem pairwise_rows : (listing.rows table partition).Pairwise fun first second =>
    listing.order.lt first.1 second.1 := by
  let order := listing.order
  have sorted : (listing.rows table partition).Pairwise fun first second =>
      listing.order.le first.1 second.1 := @PagedQuery.pairwise_inOrder _ _ listing.order _ _
  refine List.Pairwise.imp_of_mem ?_ (sorted.and nodup_rows)
  rintro ⟨name, item⟩ ⟨other, value⟩ member further ⟨before, apart⟩
  refine lt_of_le_of_ne before fun same => apart ?_
  cases same
  cases (mem_rows.mp member).1.symm.trans (mem_rows.mp further).1
  rfl

theorem mem_query {start stop : Option String} {row : String × ν} :
    row ∈ listing.query table partition start stop ↔ row ∈ listing.rows table partition ∧
      (∀ bound ∈ start, listing.order.lt bound row.1) ∧
        ∀ bound ∈ stop, listing.order.le row.1 bound :=
  @PagedQuery.mem_between _ _ listing.order _ _ _ _ _

theorem query_none : listing.query table partition none none = listing.rows table partition :=
  @PagedQuery.between_none _ _ listing.order _ _

/-- **The walk.** Following the cursors reads what there is after the first of them, once and in
order. -/
theorem walk_eq {limit : ℕ} {cursor : Option String} {stops : List String}
    (allowed : listing.Stops table partition limit (cursor.map (listing.stem ++ ·)) stops) :
    listing.walk table partition cursor stops =
      (listing.query table partition (cursor.map (listing.stem ++ ·)) none).mapM
        fun row => listing.decode row.2 := by
  induction stops generalizing cursor with
  | nil =>
      rw [walk, follow, page]
      simp
  | cons stop stops ih =>
      obtain ⟨begins, started, -, rest⟩ := allowed
      obtain ⟨next, begins⟩ := Option.isSome_iff_exists.mp begins
      obtain rfl := after?_eq_some.mp begins
      have split := @PagedQuery.between_append _ _ listing.order Prod.fst
        (listing.rows table partition) (cursor.map (listing.stem ++ ·)) none (listing.stem ++ next)
        (@PagedQuery.pairwise_inOrder _ _ listing.order _ _) started (fun _ same => nomatch same)
      have remaining : follow (listing.page table partition) (some next) stops = _ := @ih (some next) rest
      have whole : listing.query table partition (cursor.map (listing.stem ++ ·)) none =
          listing.query table partition (cursor.map (listing.stem ++ ·)) (some (listing.stem ++ next)) ++
            listing.query table partition (some (listing.stem ++ next)) none := split.symm
      rw [walk, follow, page, whole, List.mapM_append]
      simp only [bind_assoc, pure_bind, Option.bind_some, after?_append, remaining, Option.map_some]

/-! ## Listings of records -/

theorem exists_mapM {α β : Type} {items : List α} {f : α → Except ε β} {holds : α → β → Prop}
    (each : ∀ item ∈ items, ∃ value, f item = .ok value ∧ holds item value) :
    ∃ values, items.mapM f = .ok values ∧
      List.Forall₂ (fun item value => f item = .ok value ∧ holds item value) items values := by
  induction items with
  | nil => exact ⟨[], rfl, .nil⟩
  | cons item rest ih =>
      obtain ⟨head, tail⟩ := List.forall_mem_cons.mp each
      obtain ⟨value, made, held⟩ := head
      obtain ⟨values, all, pairs⟩ := ih tail
      refine ⟨value :: values, ?_, .cons ⟨made, held⟩ pairs⟩
      rw [List.mapM_cons, made, all]
      rfl

theorem mem_iff_of_forall₂ {α β : Type} {items : List α} {values : List β} {f : α → Except ε β}
    {holds : α → β → Prop}
    (pairs : List.Forall₂ (fun item value => f item = .ok value ∧ holds item value) items values)
    {value : β} : value ∈ values ↔ ∃ item ∈ items, f item = .ok value := by
  induction pairs with
  | nil => simp
  | cons pair _ ih =>
      simp only [List.mem_cons, or_and_right, exists_or, exists_eq_left, ih, pair.1,
        Except.ok.injEq]
      exact or_congr_left eq_comm

variable {key : ρ → String}

/-- Of records that have the keys of their rows the walk returns each one once, in their order. -/
theorem exists_walk {limit : ℕ} {stops : List String}
    (readable : ∀ row ∈ listing.rows table partition,
      ∃ record, listing.decode row.2 = .ok record ∧ key record = row.1)
    (allowed : listing.Stops table partition limit none stops) :
    ∃ records, listing.walk table partition none stops = .ok records ∧
      (records.Pairwise fun first second => listing.order.lt (key first) (key second)) ∧
      ∀ record, record ∈ records ↔
        ∃ row ∈ listing.rows table partition, listing.decode row.2 = .ok record := by
  obtain ⟨records, all, pairs⟩ := exists_mapM readable
  refine ⟨records, ?_, ?_, fun record => mem_iff_of_forall₂ pairs⟩
  · have walked := @walk_eq _ _ _ listing table partition limit none stops allowed
    rw [walked, Option.map_none, query_none, all]
  · have keys : records.map key = (listing.rows table partition).map Prod.fst := by
      rw [← List.forall₂_eq_eq_eq, List.forall₂_map_left_iff, List.forall₂_map_right_iff]
      exact pairs.flip.imp fun _ _ pair => pair.2
    have sorted := List.pairwise_map.mpr
      (@pairwise_rows _ _ _ listing table partition)
    rw [← keys] at sorted
    exact List.pairwise_map.mp sorted

/-- A page returns, whatever the cursor, and only records of the partition. -/
theorem exists_page (cursor stop : Option String)
    (readable : ∀ row ∈ listing.rows table partition,
      ∃ record, listing.decode row.2 = .ok record ∧ key record = row.1) :
    ∃ records next, listing.page table partition cursor stop = .ok (records, next) ∧
      ∀ record ∈ records,
        ∃ row ∈ listing.rows table partition, listing.decode row.2 = .ok record := by
  have within : ∀ row ∈ listing.query table partition (cursor.map (listing.stem ++ ·)) stop,
      ∃ record, listing.decode row.2 = .ok record ∧ key record = row.1 :=
    fun row member => readable row (mem_query.mp member).1
  obtain ⟨records, all, pairs⟩ := exists_mapM within
  refine ⟨records, stop.bind (after? listing.stem), ?_, fun record member => ?_⟩
  · rw [page, all]
    rfl
  · obtain ⟨row, member, made⟩ := (mem_iff_of_forall₂ pairs).mp member
    exact ⟨row, (mem_query.mp member).1, made⟩

end Listing

end CursorListing
