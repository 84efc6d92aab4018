import Panakoes.AdminApi.Lifecycle
import Panakoes.Foundation.IsoTimestamp
import Panakoes.Foundation.PagedQuery

/-! # The audit table

Events of the audit library, and the two rows of a lifecycle operation, put under a partition key and
a sort key that begins with a time. A put replaces what the table holds under its key. A partition is
read in the order of its sort keys. Objects inside an event are written with their names in order, so
that equal events are written alike.
-/

namespace Panakoes.AuditLib

open AdminApi (Submission AuditRow Clock)

/-- How `isoformat` writes a time of UTC. -/
def utc : IsoTimestamp.Format := ⟨6, "+00:00"⟩

/-- A `datetime` whose offset is that of UTC. -/
abbrev Moment := IsoTimestamp.Timestamp utc

/-- `ActorType`. -/
inductive ActorType where
  | user
  | service
  | system
  | anonymous
  deriving DecidableEq

/-- The text of an actor type. -/
def ActorType.text : ActorType → String
  | .user => "user"
  | .service => "service"
  | .system => "system"
  | .anonymous => "anonymous"

/-- `[a-z][a-z0-9_]*`. -/
def isWord : List Char → Bool
  | [] => false
  | head :: tail =>
      head.isLower && tail.all fun char => char.isLower || char.isDigit || char == '_'

/-- `_ACTION_RE`. -/
def matchesAction (action : String) : Bool :=
  match action.toList.splitOn '.' with
  | [domain, verb] => isWord domain && isWord verb
  | _ => false

/-- `AuditEvent`, as its validators leave it. -/
structure AuditEvent where
  timestamp : Moment
  actorId : String
  actorType : ActorType
  action : String
  resourceType : String
  resourceId : String
  sourceService : String
  requestId : String
  details : List (String × PyJson)
  sourceIp : Option String
  actorId_ne : actorId ≠ ""
  action_matches : matchesAction action = true
  resourceType_ne : resourceType ≠ ""
  resourceId_ne : resourceId ≠ ""
  sourceService_ne : sourceService ≠ ""
  requestId_ne : requestId ≠ ""

/-- An item of the table. The attribute `timestamp` is kept as the time that its text tells. -/
structure AuditItem where
  pk : String
  sk : String
  timestamp : Moment
  attributes : List (String × PyJson)

/-- The primary key of an item. -/
def AuditItem.key (item : AuditItem) : String × String := (item.pk, item.sk)

/-- A text, or `null`. -/
def textOrNull : Option String → PyJson
  | some text => .str text
  | none => .none

/-- `_build_item`. -/
def AuditEvent.buildItem (event : AuditEvent) : AuditItem where
  pk := s!"AUDIT#{event.sourceService}#{event.actorId}"
  sk := s!"{event.timestamp.isoformat}#{event.requestId}"
  timestamp := event.timestamp
  attributes := [("actor_id", .str event.actorId), ("actor_type", .str event.actorType.text),
    ("action", .str event.action), ("resource_type", .str event.resourceType),
    ("resource_id", .str event.resourceId), ("source_service", .str event.sourceService),
    ("request_id", .str event.requestId), ("details", .dict event.details),
    ("source_ip", textOrNull event.sourceIp)]

/-- A reading of the clock whose text is that of a time of UTC. -/
structure Reading where
  clock : Clock
  timestamp : Moment
  iso_eq : clock.iso = timestamp.isoformat

/-- The item of a row that `audit_lifecycle` puts. The intent row has a reason, the outcome row an
error message, which may be `null`. -/
def lifecycleItem (row : AuditRow) (timestamp : Moment) : AuditItem where
  pk := row.pk
  sk := row.sk
  timestamp := timestamp
  attributes := [("actor_id", .str row.actorId), ("action", .str row.action),
    ("tier3_action", .str row.tier3Action), ("source_service", .str row.sourceService),
    ("request_id", .str row.requestId), ("outcome", .str row.outcome),
    ("target", .dict [(row.target.1, .str row.target.2)])] ++
      match row.reason with
      | some reason => [("reason", reason)]
      | none => [("error_message", textOrNull row.errorMessage)]

/-- What is recorded: an event, or the intent or the outcome of a lifecycle operation. -/
inductive Recorded where
  | auditEvent (event : AuditEvent)
  | intent (submission : Submission) (requestId : String) (reading : Reading)
  | outcome (submission : Submission) (requestId : String) (failureMessage : Option String)
      (reading : Reading)

/-- The item that is put. -/
def Recorded.item : Recorded → AuditItem
  | .auditEvent event => event.buildItem
  | .intent submission requestId reading =>
      lifecycleItem (submission.intentRow requestId reading.clock) reading.timestamp
  | .outcome submission requestId failureMessage reading =>
      lifecycleItem (submission.outcomeRow requestId failureMessage reading.clock)
        reading.timestamp

/-- The table. -/
abbrev AuditTable := Table (String × String) AuditItem

/-- `put_item`. -/
def putItem (table : AuditTable) (item : AuditItem) : AuditTable := table.insert item.key item

/-- The table after what is recorded in turn. -/
def recordAll (recorded : List Recorded) : AuditTable :=
  (recorded.map Recorded.item).foldl putItem ∅

/-- The items of a partition, in the order of their sort keys. -/
def query (table : AuditTable) (pk : String) : List AuditItem :=
  PagedQuery.inOrder AuditItem.sk
    ((table.entries.map Sigma.snd).filter fun item => item.pk = pk)

end Panakoes.AuditLib

/-! ## What the audit table keeps

A sort key begins with the text of a time, without the fraction where it is zero, and the plus sign
of the zone comes before the full stop of a fraction. So the keys of a partition are in the order of
the times. A key does not tell events apart that have the partition, the time and the identifier in
common, and the later one replaces the earlier.
-/

namespace Panakoes.AuditLib

/-- The text that the partition key tells of. -/
def Recorded.partition : Recorded → String
  | .auditEvent event => event.sourceService ++ "#" ++ event.actorId
  | .intent submission _ _ | .outcome submission _ _ _ =>
      AdminApi.sourceService ++ "#" ++ submission.actorId

/-- What follows the time in the sort key. -/
def Recorded.identifier : Recorded → String
  | .auditEvent event => event.requestId
  | .intent _ requestId _ => requestId
  | .outcome _ requestId _ _ => requestId ++ "#outcome"

/-- The time of what is recorded. -/
def Recorded.timestamp : Recorded → Moment
  | .auditEvent event => event.timestamp
  | .intent _ _ reading | .outcome _ _ _ reading => reading.timestamp

/-- What has been recorded is kept: nothing replaces another item, the sort keys are in the order of
the times, and each partition holds what was recorded in it, once each and in time order. -/
structure AppendOnly (recorded : List Recorded) : Prop where
  unreplaced : ∀ front entry back, recorded = front ++ entry :: back →
    ∀ item, (recordAll front).lookup entry.item.key = some item → item = entry.item
  ordered : ∀ first ∈ recorded, ∀ second ∈ recorded, first.item.pk = second.item.pk →
    first.timestamp ≠ second.timestamp →
      (first.item.sk < second.item.sk ↔ first.timestamp.fields < second.timestamp.fields)
  complete : ∀ pk item, item ∈ query (recordAll recorded) pk ↔
    ∃ entry ∈ recorded, entry.item.pk = pk ∧ entry.item = item
  once : ∀ pk, (query (recordAll recorded) pk).Nodup
  inTime : ∀ pk, (query (recordAll recorded) pk).Pairwise fun first second =>
    first.timestamp.fields ≤ second.timestamp.fields

/-- What has the partition, the time and the identifier in common is the same. -/
def ToldApart (recorded : List Recorded) : Prop :=
  ∀ first ∈ recorded, ∀ second ∈ recorded, first.partition = second.partition →
    first.timestamp = second.timestamp → first.identifier = second.identifier →
      first.item = second.item

variable {recorded : List Recorded} {first second entry : Recorded} {item : AuditItem}
  {table : AuditTable} {pk : String}

/-! ## The keys -/

theorem append_after (start first mark second : String) :
    start ++ first ++ mark ++ second = start ++ (first ++ mark ++ second) := by
  rw [String.append_assoc, String.append_assoc, String.append_assoc]

theorem item_pk (entry : Recorded) : entry.item.pk = "AUDIT#" ++ entry.partition := by
  cases entry with
  | auditEvent event => exact append_after "AUDIT#" event.sourceService "#" event.actorId
  | intent submission requestId reading =>
      exact append_after "AUDIT#" AdminApi.sourceService "#" submission.actorId
  | outcome submission requestId failureMessage reading =>
      exact append_after "AUDIT#" AdminApi.sourceService "#" submission.actorId

theorem item_sk (entry : Recorded) :
    entry.item.sk = entry.timestamp.isoformat ++ "#" ++ entry.identifier := by
  cases entry with
  | auditEvent event => rfl
  | intent submission requestId reading =>
      change reading.clock.iso ++ "#" ++ requestId = _
      rw [reading.iso_eq]
      rfl
  | outcome submission requestId failureMessage reading =>
      change reading.clock.iso ++ "#" ++ requestId ++ "#outcome" = _
      rw [reading.iso_eq]
      exact String.append_assoc

theorem toList_item_sk (entry : Recorded) : entry.item.sk.toList =
    entry.timestamp.isoformat.toList ++ '#' :: entry.identifier.toList := by
  rw [item_sk, String.toList_append, String.toList_append, List.append_assoc]
  rfl

@[simp] theorem item_timestamp (entry : Recorded) : entry.item.timestamp = entry.timestamp := by
  cases entry <;> rfl

theorem pk_eq_iff : first.item.pk = second.item.pk ↔ first.partition = second.partition := by
  rw [item_pk, item_pk, String.append_right_inj]

/-- Sort keys are ordered by the times, and then by the identifiers. -/
theorem sk_lt_iff : first.item.sk < second.item.sk ↔
    first.timestamp.fields < second.timestamp.fields ∨
      first.timestamp.fields = second.timestamp.fields ∧
        first.identifier.toList < second.identifier.toList := by
  have early : '+' < '.' := by decide
  have zoned : utc.zone.toList = '+' :: "00:00".toList := rfl
  rw [String.lt_iff_toList_lt, toList_item_sk, toList_item_sk,
    IsoTimestamp.Timestamp.isoformat_append_lt_iff (by decide) zoned early, List.cons_lt_cons_iff]
  simp only [lt_irrefl, true_and, false_or]

theorem fields_inj (same : first.timestamp.fields = second.timestamp.fields) :
    first.timestamp = second.timestamp :=
  IsoTimestamp.Timestamp.fields_inj (by decide) same

theorem sk_eq_iff : first.item.sk = second.item.sk ↔
    first.timestamp = second.timestamp ∧ first.identifier = second.identifier := by
  constructor
  · intro same
    have notLess : ¬ first.item.sk < second.item.sk := same.not_lt
    have notMore : ¬ second.item.sk < first.item.sk := same.not_gt
    rw [sk_lt_iff, not_or, not_and, not_lt, not_lt] at notLess notMore
    have fields : first.timestamp.fields = second.timestamp.fields :=
      le_antisymm notMore.1 notLess.1
    exact ⟨fields_inj fields, String.toList_injective
      (le_antisymm (notMore.2 fields.symm) (notLess.2 fields))⟩
  · intro ⟨time, identifier⟩
    rw [item_sk, item_sk, time, identifier]

theorem key_eq_iff : first.item.key = second.item.key ↔ first.partition = second.partition ∧
    first.timestamp = second.timestamp ∧ first.identifier = second.identifier := by
  unfold AuditItem.key
  rw [Prod.mk.injEq, pk_eq_iff, sk_eq_iff]

/-- The keys tell apart what has to be told apart. -/
theorem toldApart_iff : ToldApart recorded ↔
    ∀ first ∈ recorded, ∀ second ∈ recorded, first.item.key = second.item.key →
      first.item = second.item := by
  constructor
  · intro apart first firstIn second secondIn same
    obtain ⟨partition, time, identifier⟩ := key_eq_iff.mp same
    exact apart first firstIn second secondIn partition time identifier
  · intro apart first firstIn second secondIn partition time identifier
    exact apart first firstIn second secondIn (key_eq_iff.mpr ⟨partition, time, identifier⟩)

/-! ## The table -/

theorem recordAll_concat :
    recordAll (recorded ++ [entry]) = putItem (recordAll recorded) entry.item := by
  unfold recordAll
  rw [List.map_append, List.foldl_append]
  rfl

theorem lookup_putItem_self : (putItem table item).lookup item.key = some item :=
  AList.lookup_insert table

/-- What the table holds has been recorded under its key. -/
theorem recorded_of_lookup {key : String × String}
    (held : (recordAll recorded).lookup key = some item) :
    ∃ entry ∈ recorded, entry.item = item ∧ item.key = key := by
  induction recorded using List.reverseRecOn with
  | nil =>
      change (∅ : AuditTable).lookup key = some item at held
      rw [AList.lookup_empty] at held
      cases held
  | append_singleton front last ih =>
      rw [recordAll_concat] at held
      rcases Table.lookup_insert_cases held with ⟨rfl, rfl⟩ | ⟨-, before⟩
      · exact ⟨last, List.mem_append_right _ (List.mem_singleton_self _), rfl, rfl⟩
      · obtain ⟨entry, member, same⟩ := ih before
        exact ⟨entry, List.mem_append_left _ member, same⟩

/-- While nothing is replaced, the table holds what has been recorded. -/
theorem lookup_of_unreplaced
    (unreplaced : ∀ front entry back, recorded = front ++ entry :: back →
      ∀ item, (recordAll front).lookup entry.item.key = some item → item = entry.item)
    (member : entry ∈ recorded) : (recordAll recorded).lookup entry.item.key = some entry.item := by
  induction recorded using List.reverseRecOn with
  | nil => cases member
  | append_singleton front last ih =>
      rw [recordAll_concat]
      rcases List.mem_append.mp member with before | isLast
      · have held := ih (fun start entry rest split =>
          unreplaced start entry (rest ++ [last]) (by rw [split]; simp)) before
        by_cases same : entry.item.key = last.item.key
        · rw [same] at held ⊢
          rw [lookup_putItem_self, unreplaced front last [] rfl entry.item held]
        · rw [putItem, AList.lookup_insert_ne same]
          exact held
      · rw [List.mem_singleton.mp isLast]
        exact lookup_putItem_self

theorem mem_query : item ∈ query (recordAll recorded) pk ↔
    item.pk = pk ∧ (recordAll recorded).lookup item.key = some item := by
  unfold query
  rw [PagedQuery.mem_inOrder, List.mem_filter, List.mem_map, decide_eq_true_iff]
  constructor
  · intro ⟨⟨⟨key, held⟩, member, same⟩, partition⟩
    cases same
    have found := AList.mem_lookup_iff.mpr member
    obtain ⟨-, -, -, same⟩ := recorded_of_lookup found
    exact ⟨partition, same ▸ found⟩
  · intro ⟨partition, found⟩
    exact ⟨⟨⟨item.key, item⟩, AList.mem_lookup_iff.mp found, rfl⟩, partition⟩

/-- No item is read twice. -/
theorem nodup_query : (query (recordAll recorded) pk).Nodup := by
  unfold query
  apply (List.perm_insertionSort _ _).nodup_iff.mpr
  apply List.Nodup.filter
  apply List.Nodup.of_map AuditItem.key
  have keys : (((recordAll recorded).entries.map Sigma.snd).map AuditItem.key) =
      (recordAll recorded).keys := by
    rw [List.map_map]
    apply List.map_congr_left
    intro held member
    obtain ⟨-, -, -, same⟩ := recorded_of_lookup (AList.mem_lookup_iff.mpr member)
    exact same
  rw [keys]
  exact (recordAll recorded).keys_nodup

/-- Items are read in time order. -/
theorem pairwise_query : (query (recordAll recorded) pk).Pairwise fun first second =>
    first.timestamp.fields ≤ second.timestamp.fields := by
  apply List.Pairwise.imp_of_mem _ PagedQuery.pairwise_inOrder
  intro first second firstIn secondIn sorted
  obtain ⟨early, -, rfl, -⟩ := recorded_of_lookup (mem_query.mp firstIn).2
  obtain ⟨late, -, rfl, -⟩ := recorded_of_lookup (mem_query.mp secondIn).2
  rw [item_timestamp, item_timestamp]
  apply not_lt.mp
  intro before
  exact not_le.mpr (sk_lt_iff.mpr (Or.inl before)) sorted

/-- Different times order the sort keys. -/
theorem sk_lt_iff_of_ne (different : first.timestamp ≠ second.timestamp) :
    first.item.sk < second.item.sk ↔ first.timestamp.fields < second.timestamp.fields := by
  rw [sk_lt_iff]
  exact or_iff_left fun same => different (fields_inj same.1)

/-- **The audit log is append-only.** What is recorded is kept exactly when no two different events
have the partition, the time and the identifier in common. -/
theorem appendOnly_iff (recorded : List Recorded) : AppendOnly recorded ↔ ToldApart recorded := by
  rw [toldApart_iff]
  constructor
  · intro kept first firstIn second secondIn same
    have firstHeld := lookup_of_unreplaced kept.unreplaced firstIn
    have secondHeld := lookup_of_unreplaced kept.unreplaced secondIn
    rw [same] at firstHeld
    exact Option.some.inj (firstHeld.symm.trans secondHeld)
  · intro apart
    have unreplaced : ∀ front entry back, recorded = front ++ entry :: back →
        ∀ item, (recordAll front).lookup entry.item.key = some item → item = entry.item := by
      intro front entry back split item held
      obtain ⟨earlier, member, rfl, same⟩ := recorded_of_lookup held
      apply apart earlier _ entry _ same
      · rw [split]
        exact List.mem_append_left _ member
      · rw [split]
        exact List.mem_append_right _ (List.mem_cons_self ..)
    refine ⟨unreplaced, ?_, ?_, fun _ => nodup_query, fun _ => pairwise_query⟩
    · intro first _ second _ _ different
      exact sk_lt_iff_of_ne different
    · intro pk item
      rw [mem_query]
      constructor
      · intro ⟨partition, held⟩
        obtain ⟨entry, member, rfl, -⟩ := recorded_of_lookup held
        exact ⟨entry, member, partition, rfl⟩
      · intro ⟨entry, member, partition, same⟩
        rw [← same]
        exact ⟨partition, lookup_of_unreplaced unreplaced member⟩

/-- An event of a request that has a given action. -/
def requestEvent (action : String) (matched : matchesAction action = true) : Recorded :=
  .auditEvent
    { timestamp := ⟨2025, 5, 7, 12, 0, 0, 0, by decide, by decide, by decide, by decide, by decide,
        by decide, by decide⟩
      actorId := "user_abc"
      actorType := .user
      action := action
      resourceType := "transcript"
      resourceId := "trnscr_xyz"
      sourceService := "ingestion"
      requestId := "req_def"
      details := []
      sourceIp := none
      actorId_ne := by decide
      action_matches := matched
      resourceType_ne := by decide
      resourceId_ne := by decide
      sourceService_ne := by decide
      requestId_ne := by decide }

/-- The second event of a request replaces the first, when the clock has not moved. -/
theorem not_appendOnly_sameRequest : ¬ ∀ recorded : List Recorded, AppendOnly recorded := by
  intro kept
  let created := requestEvent "transcript.created" (by decide)
  let deleted := requestEvent "transcript.deleted" (by decide)
  have held : (recordAll [created]).lookup deleted.item.key = some created.item :=
    lookup_putItem_self
  have same : created.item = deleted.item :=
    (kept [created, deleted]).unreplaced [created] deleted [] rfl created.item held
  have action : some ("action", PyJson.str "transcript.created") =
      some ("action", PyJson.str "transcript.deleted") :=
    congrArg (fun item => item.attributes[2]?) same
  have text := PyJson.str.inj (Prod.mk.inj (Option.some.inj action)).2
  exact absurd text (by decide)

end Panakoes.AuditLib
