import Mathlib.Data.Prod.Lex
import Panakoes.AuditLib.AuditTable
import Panakoes.Foundation.Base64
import Panakoes.Foundation.JsonReading

/-! # Reading the audit log

The read view of the lifecycle operations goes through an index of their rows page by page. The cursor
of a page is the key at which the page has stopped, written as JSON in Base64 of the URL alphabet. The
store chooses where a page stops, and the index may show another state of the log at each page.
-/

namespace Panakoes.AdminApi.AuditRead

open AuditLib JsonText

/-! ## Cursors -/

/-- Why a request is refused: an `HTTPException`, or an error of DynamoDB that no handler catches. -/
inductive Failure where
  | http (status : ℕ) (detail : String)
  | validationException

/-- The refusal of a cursor. -/
def malformedCursor : Failure := .http 400 "malformed cursor"

/-- `urlsafe_b64encode` writes these for the last two characters of the alphabet. -/
def toUrlsafe (char : Char) : Char :=
  if char = '+' then '-' else if char = '/' then '_' else char

/-- What `urlsafe_b64decode` reads for a character. -/
def ofUrlsafe (char : Char) : Char :=
  if char = '-' then '+' else if char = '_' then '/' else char

/-- `sort_keys`. -/
def sortKeys (entries : List (String × String)) : List (String × String) :=
  entries.insertionSort fun first second => first.1 ≤ second.1

/-- The object with these texts. -/
def textObject (entries : List (String × String)) : List (String × PyJson) :=
  entries.map fun entry => (entry.1, .str entry.2)

variable (floats : PyFloats)

/-- The style of `json.dumps` with `separators`. -/
def cursorStyle : Style := ⟨false, true, floats.repr⟩

/-- `_encode_cursor`. A key of the table has texts only. -/
def encodeCursor : Option (List (String × String)) → Option String
  | none | some [] => none
  | some key =>
      let raw := dumps (cursorStyle floats) (.dict (textObject (sortKeys key)))
      some (String.ofList ((Base64.encode raw.toUTF8.data.toList).map toUrlsafe))

/-- The text in a cursor: `encode("ascii")`, `urlsafe_b64decode` and `decode("utf-8")`. -/
def cursorText? (cursor : String) : Option String :=
  if cursor.toList.all fun char => char.toNat < 128 then
    (Base64.decodeLoosely .first 0 (cursor.toList.map ofUrlsafe)).bind
      fun bytes => String.fromUTF8? ⟨bytes.toArray⟩
  else none

/-- `_decode_cursor`. -/
def decodeCursor : Option String → Except Failure (Option (List (String × PyJson)))
  | none => .ok none
  | some cursor =>
      if cursor = "" then .ok none
      else
        match (cursorText? cursor).bind fun raw => (loads floats.read raw).toOption with
        | some (.dict entries) => .ok (some entries)
        | _ => .error malformedCursor

variable {floats}

theorem textObject_keys (entries : List (String × String)) :
    (textObject entries).map Prod.fst = entries.map Prod.fst := by
  simp [textObject]

theorem written_textObject {entries : List (String × String)}
    (distinct : (entries.map Prod.fst).Nodup) :
    Written (cursorStyle floats) floats.read (.dict (textObject entries)) := by
  apply Written.dict
  · rw [textObject_keys]
    exact distinct
  · intro entry member
    obtain ⟨⟨name, value⟩, -, rfl⟩ := List.mem_map.mp member
    exact .str value

/-- The characters of a cursor are of the URL alphabet, and are read as they were written. -/
theorem urlsafe_encode (bytes : List UInt8) :
    ∀ char ∈ Base64.encode bytes, (toUrlsafe char).toNat < 128 ∧ ofUrlsafe (toUrlsafe char) = char := by
  have digit : ∀ value < 64, (toUrlsafe (Base64.digitChar value)).toNat < 128 ∧
      ofUrlsafe (toUrlsafe (Base64.digitChar value)) = Base64.digitChar value := by
    decide
  have pad : (toUrlsafe '=').toNat < 128 ∧ ofUrlsafe (toUrlsafe '=') = '=' := by decide
  induction bytes using Base64.encode.induct with
  | case1 => exact fun _ member => absurd member List.not_mem_nil
  | case2 a =>
      have := a.toNat_lt
      simp only [Base64.encode, List.forall_mem_cons]
      exact ⟨digit _ (by omega), digit _ (by omega), pad, pad,
        fun _ member => absurd member List.not_mem_nil⟩
  | case3 a b =>
      have := a.toNat_lt
      have := b.toNat_lt
      simp only [Base64.encode, List.forall_mem_cons]
      exact ⟨digit _ (by omega), digit _ (by omega), digit _ (by omega), pad,
        fun _ member => absurd member List.not_mem_nil⟩
  | case4 a b c rest ih =>
      have := a.toNat_lt
      have := b.toNat_lt
      have := c.toNat_lt
      simp only [Base64.encode, List.forall_mem_cons]
      exact ⟨digit _ (by omega), digit _ (by omega), digit _ (by omega), digit _ (by omega), ih⟩

/-- The text that was put into a cursor is found in it. -/
theorem cursorText?_encode (raw : String) :
    cursorText? (String.ofList ((Base64.encode raw.toUTF8.data.toList).map toUrlsafe)) = some raw := by
  have safe := urlsafe_encode raw.toUTF8.data.toList
  have ascii : ((Base64.encode raw.toUTF8.data.toList).map toUrlsafe).all
      (fun char => char.toNat < 128) = true := by
    rw [List.all_map, List.all_eq_true]
    intro char member
    exact decide_eq_true (safe char member).1
  have back : ((Base64.encode raw.toUTF8.data.toList).map toUrlsafe).map ofUrlsafe =
      Base64.encode raw.toUTF8.data.toList := by
    rw [List.map_map]
    conv_rhs => rw [← List.map_id (Base64.encode raw.toUTF8.data.toList)]
    apply List.map_congr_left
    exact fun char member => (safe char member).2
  rw [cursorText?, String.toList_ofList, if_pos ascii, back, Base64.decodeLoosely_encode,
    Option.bind_some, Array.toArray_toList]
  exact dif_pos raw.isValidUTF8

theorem cursor_ne_empty (style : Style) (value : PyJson) :
    String.ofList ((Base64.encode (dumps style value).toUTF8.data.toList).map toUrlsafe) ≠ "" := by
  intro blank
  have found := cursorText?_encode (dumps style value)
  have nothing : cursorText? "" = some "" := cursorText?_encode ""
  obtain ⟨head, tail, opening, -⟩ := write_opens style value
  rw [blank, nothing, dumps, opening] at found
  have chars : ([] : List Char) = head :: tail := by
    rw [← String.toList_ofList (l := head :: tail), ← Option.some.inj found]
    rfl
  cases chars

/-- **A cursor round trip.** Whatever texts a key has, the cursor of the key is decoded to these texts. -/
theorem decodeCursor_encodeCursor {key : List (String × String)}
    (distinct : (key.map Prod.fst).Nodup) (nonempty : key ≠ []) :
    decodeCursor floats (encodeCursor floats (some key)) =
      .ok (some (textObject (sortKeys key))) := by
  obtain ⟨first, rest, rfl⟩ := List.exists_cons_of_ne_nil nonempty
  have sorted : ((sortKeys (first :: rest)).map Prod.fst).Nodup :=
    ((List.perm_insertionSort _ _).map Prod.fst).nodup_iff.mpr distinct
  have visible := cursor_ne_empty (cursorStyle floats)
    (.dict (textObject (sortKeys (first :: rest))))
  rw [encodeCursor, decodeCursor, if_neg visible, cursorText?_encode, Option.bind_some,
    loads_dumps (written_textObject sorted)]
  · rfl
  · intro same
    cases same

/-! ## Entries -/

/-- `AuditLogEntry`. -/
structure AuditLogEntry where
  requestId : String
  timestamp : String
  sourceService : String
  actorId : String
  action : String
  tier3Action : Option String
  payload : List (String × PyJson)

/-- `_TOP_LEVEL_FIELDS`. -/
def topLevelFields : List String :=
  ["request_id", "timestamp", "source_service", "actor_id", "action", "tier3_action"]

/-- The attributes of an item, with those of its primary key. -/
def attributesOf (item : AuditItem) : List (String × PyJson) :=
  [("pk", .str item.pk), ("sk", .str item.sk), ("timestamp", .str item.timestamp.isoformat)] ++
    item.attributes

variable (str : PyJson → String)

/-- `str` of a text is the text. -/
def textOf : PyJson → String
  | .str text => text
  | other => str other

/-- `_row_to_entry`. -/
def rowToEntry (row : List (String × PyJson)) : AuditLogEntry where
  requestId := String.ofList <|
    (textOf str ((PyJson.get row "request_id").orElse (PyJson.getD row "sk" (.str "")))).toList.takeWhile
      (· ≠ '#')
  timestamp := textOf str (PyJson.getD row "timestamp" (.str ""))
  sourceService := textOf str (PyJson.getD row "source_service" (.str ""))
  actorId := textOf str (PyJson.getD row "actor_id" (.str ""))
  action := textOf str (PyJson.getD row "action" (.str ""))
  tier3Action :=
    match PyJson.get row "tier3_action" with
    | .none => none
    | action => some (textOf str action)
  payload := row.filter fun (name, _) => name ∉ topLevelFields ∧ name ∉ ["pk", "sk"]

/-- The entry of an item. -/
def entryOf (item : AuditItem) : AuditLogEntry := rowToEntry str (attributesOf item)

/-! ## Pages -/

/-- A key of the index: the primary key of the row and its action. -/
structure LastKey where
  pk : String
  sk : String
  tier3Action : String
  deriving DecidableEq

/-- The attributes of a key. -/
def LastKey.attributes (key : LastKey) : List (String × String) :=
  [("pk", key.pk), ("sk", key.sk), ("tier3_action", key.tier3Action)]

/-- The action of an item, if it has one. -/
def tier3Action? (item : AuditItem) : Option String :=
  match item.attributes.lookup "tier3_action" with
  | some (.str action) => some action
  | _ => none

/-- The key of an item in the index. An item without an action is not in it. -/
def lastKey? (item : AuditItem) : Option LastKey :=
  (tier3Action? item).map fun action => ⟨item.pk, item.sk, action⟩

/-- `Tier3ActionIndex`, when the log is what is recorded. -/
def indexed (recorded : List Recorded) : List (LastKey × AuditItem) :=
  ((recordAll recorded).entries.map Sigma.snd).filterMap fun item =>
    (lastKey? item).map fun key => (key, item)

/-- The order in which the index is read: within an action by sort keys. Which action is read first,
and which of the rows that have a sort key in common, is not said. -/
structure IndexOrder where
  order : LinearOrder LastKey
  bySortKey : ∀ first second, first.tier3Action = second.tier3Action → first.sk < second.sk →
    order.lt first second

/-- What one call of the route meets: the log that the index shows, the `Limit`, the key at which the
store stops the page, and the time. -/
structure Visit where
  shown : List Recorded
  limit : ℕ
  stop : Option LastKey
  now : String

/-- `AuditLogPage`. -/
structure AuditLogPage where
  entries : List AuditLogEntry
  nextCursor : Option String
  generatedAt : String

variable (index : IndexOrder) (tier3Action : Option String)

/-- The rows that the `Query` or the `Scan` goes through, in order. -/
def selected (recorded : List Recorded) : List (LastKey × AuditItem) :=
  @PagedQuery.inOrder _ _ index.order Prod.fst
    ((indexed recorded).filter fun row => ∀ wanted ∈ tier3Action, row.1.tier3Action = wanted)

/-- The rows after `ExclusiveStartKey`, up to `LastEvaluatedKey`. -/
def pageRows (recorded : List Recorded) (start stop : Option LastKey) : List (LastKey × AuditItem) :=
  @PagedQuery.between _ _ index.order Prod.fst start stop (selected index tier3Action recorded)

/-- The `ExclusiveStartKey` that DynamoDB makes of a decoded cursor. -/
def startKey (entries : List (String × PyJson)) : Except Failure LastKey :=
  match entries.lookup "pk", entries.lookup "sk", entries.lookup "tier3_action" with
  | some (.str pk), some (.str sk), some (.str action) =>
      if entries.length = 3 ∧ ∀ wanted ∈ tier3Action, action = wanted then .ok ⟨pk, sk, action⟩
      else .error .validationException
  | _, _, _ => .error .validationException

variable (floats)

/-- `read_audit_log`. -/
def readAuditLog (visit : Visit) (cursor : Option String) : Except Failure AuditLogPage := do
  let start ←
    match ← decodeCursor floats cursor with
    | none => .ok none
    | some lastKey => (startKey tier3Action lastKey).map some
  return {
    entries := (pageRows index tier3Action visit.shown start visit.stop).map fun row =>
      entryOf str row.2
    nextCursor := encodeCursor floats (visit.stop.map LastKey.attributes)
    generatedAt := visit.now }

/-- The entries that a client reads by following the cursors, and whether it has come to the end. -/
def walk : Option String → List Visit → Except Failure (List AuditLogEntry × Bool)
  | _, [] => .ok ([], false)
  | cursor, visit :: later => do
      let page ← readAuditLog floats str index tier3Action visit cursor
      match page.nextCursor with
      | none => return (page.entries, true)
      | some next =>
          let (entries, ended) ← walk (some next) later
          return (page.entries ++ entries, ended)

/-- The store may stop the pages so: a page has no more rows than the limit, and one that is not the
last stops at a row that it holds. -/
def Allowed : Option LastKey → List Visit → Prop
  | _, [] => True
  | start, visit :: later =>
      (pageRows index tier3Action visit.shown start visit.stop).length ≤ visit.limit ∧
        match visit.stop with
        | none => True
        | some stop =>
            stop ∈ (pageRows index tier3Action visit.shown start (some stop)).map Prod.fst ∧
              Allowed (some stop) later

/-- What the pages after `start` come to: the rows of the index in strict order, and all that every
page could have shown when the walk has come to the end. -/
structure Reads (start : Option LastKey) (visits : List Visit) (rows : List (LastKey × AuditItem))
    (ended : Bool) : Prop where
  sorted : rows.Pairwise fun first second => index.order.lt first.1 second.1
  after : ∀ row ∈ rows, ∀ bound ∈ start, index.order.lt bound row.1
  shown : ∀ row ∈ rows, ∃ visit ∈ visits, row ∈ selected index tier3Action visit.shown
  complete : ended = true → ∀ row, (∀ bound ∈ start, index.order.lt bound row.1) →
    (∀ visit ∈ visits, row ∈ selected index tier3Action visit.shown) → row ∈ rows

variable {floats str index tier3Action} {recorded : List Recorded} {row : LastKey × AuditItem}
  {item : AuditItem} {start stop : Option LastKey} {visits : List Visit}

theorem mem_indexed : row ∈ indexed recorded ↔
    (recordAll recorded).lookup row.2.key = some row.2 ∧ lastKey? row.2 = some row.1 := by
  obtain ⟨key, item⟩ := row
  unfold indexed
  rw [List.mem_filterMap]
  constructor
  · intro ⟨held, member, made⟩
    obtain ⟨found, keyed, same⟩ := Option.map_eq_some_iff.mp made
    cases same
    obtain ⟨⟨primary, value⟩, stored, rfl⟩ := List.mem_map.mp member
    have looked := AList.mem_lookup_iff.mpr stored
    obtain ⟨-, -, -, same⟩ := recorded_of_lookup looked
    exact ⟨same ▸ looked, keyed⟩
  · intro ⟨looked, keyed⟩
    refine ⟨item, List.mem_map.mpr ⟨⟨item.key, item⟩, AList.mem_lookup_iff.mp looked, rfl⟩, ?_⟩
    exact Option.map_eq_some_iff.mpr ⟨key, keyed, rfl⟩

theorem mem_selected : row ∈ selected index tier3Action recorded ↔
    row ∈ indexed recorded ∧ ∀ wanted ∈ tier3Action, row.1.tier3Action = wanted := by
  unfold selected
  rw [@PagedQuery.mem_inOrder _ _ index.order, List.mem_filter, decide_eq_true_iff]

theorem mem_pageRows : row ∈ pageRows index tier3Action recorded start stop ↔
    row ∈ selected index tier3Action recorded ∧ (∀ bound ∈ start, index.order.lt bound row.1) ∧
      ∀ bound ∈ stop, index.order.le row.1 bound :=
  @PagedQuery.mem_between _ _ index.order _ _ _ _ _

/-- The key of an item in the index tells its primary key. -/
theorem key_of_lastKey? {key : LastKey} (keyed : lastKey? item = some key) :
    item.key = (key.pk, key.sk) := by
  obtain ⟨action, -, rfl⟩ := Option.map_eq_some_iff.mp keyed
  rfl

/-- Rows of the index are told apart by their keys. -/
theorem indexed_apart {other : LastKey × AuditItem} (member : row ∈ indexed recorded)
    (further : other ∈ indexed recorded) (same : row.1 = other.1) : row = other := by
  obtain ⟨held, keyed⟩ := mem_indexed.mp member
  obtain ⟨otherHeld, otherKeyed⟩ := mem_indexed.mp further
  have keys : row.2.key = other.2.key := by
    rw [key_of_lastKey? keyed, key_of_lastKey? otherKeyed, same]
  rw [keys, otherHeld] at held
  exact Prod.ext same (Option.some.inj held).symm

theorem nodup_indexed : (indexed recorded).Nodup := by
  have keys : ((recordAll recorded).entries.map Sigma.snd).map AuditItem.key =
      (recordAll recorded).keys := by
    rw [List.map_map]
    apply List.map_congr_left
    intro held member
    obtain ⟨-, -, -, same⟩ := recorded_of_lookup (AList.mem_lookup_iff.mpr member)
    exact same
  have items : ((recordAll recorded).entries.map Sigma.snd).Nodup :=
    List.Nodup.of_map AuditItem.key (keys ▸ (recordAll recorded).keys_nodup)
  refine List.Nodup.filterMap ?_ items
  intro first second row made same
  obtain ⟨_, -, rfl⟩ := Option.map_eq_some_iff.mp (Option.mem_def.mp made)
  obtain ⟨_, -, other⟩ := Option.map_eq_some_iff.mp (Option.mem_def.mp same)
  exact (Prod.mk.inj other).2.symm

/-- The rows of a page are in strict order. -/
theorem pairwise_pageRows : (pageRows index tier3Action recorded start stop).Pairwise
    fun first second => index.order.lt first.1 second.1 := by
  let order := index.order
  have sorted : (selected index tier3Action recorded).Pairwise
      fun first second => first.1 ≤ second.1 := @PagedQuery.pairwise_inOrder _ _ index.order _ _
  have nodup : (selected index tier3Action recorded).Nodup :=
    (List.perm_insertionSort _ _).nodup_iff.mpr (nodup_indexed.filter _)
  have strict : (selected index tier3Action recorded).Pairwise
      fun first second => first.1 < second.1 := by
    apply List.Pairwise.imp_of_mem _ (sorted.and nodup)
    intro first second member further ⟨before, apart⟩
    apply lt_of_le_of_ne before
    intro same
    exact apart (indexed_apart (mem_selected.mp member).1 (mem_selected.mp further).1 same)
  exact strict.sublist List.filter_sublist

/-- The cursor that a page returns is the key at which it has stopped. -/
theorem startKey_decodeCursor {key : LastKey}
    (matched : ∀ wanted ∈ tier3Action, key.tier3Action = wanted) :
    ∃ lastKey, decodeCursor floats (encodeCursor floats (some key.attributes)) = .ok (some lastKey) ∧
      startKey tier3Action lastKey = .ok key := by
  have distinct : (key.attributes.map Prod.fst).Nodup := by
    change ["pk", "sk", "tier3_action"].Nodup
    decide
  have names : (key.attributes.map Prod.fst).Pairwise (· ≤ ·) := by
    change ["pk", "sk", "tier3_action"].Pairwise (· ≤ ·)
    decide
  have inOrder : sortKeys key.attributes = key.attributes :=
    List.Pairwise.insertionSort_eq (List.pairwise_map.mp names)
  refine ⟨textObject key.attributes, ?_, if_pos ⟨rfl, matched⟩⟩
  rw [decodeCursor_encodeCursor distinct (List.cons_ne_nil _ _), inOrder]

/-- A page that is asked for with the cursor of `start` holds the rows after it. -/
theorem readAuditLog_eq (visit : Visit)
    (matched : ∀ key ∈ start, ∀ wanted ∈ tier3Action, key.tier3Action = wanted) :
    readAuditLog floats str index tier3Action visit
        (encodeCursor floats (start.map LastKey.attributes)) =
      .ok ⟨(pageRows index tier3Action visit.shown start visit.stop).map fun row => entryOf str row.2,
        encodeCursor floats (visit.stop.map LastKey.attributes), visit.now⟩ := by
  cases start with
  | none => rfl
  | some key =>
      have matchedKey : ∀ wanted ∈ tier3Action, key.tier3Action = wanted := matched key rfl
      obtain ⟨lastKey, decoded, started⟩ := @startKey_decodeCursor floats _ _ matchedKey
      rw [readAuditLog, Option.map_some, decoded]
      simp only [bind, Except.bind, started]
      rfl

/-- A page and the pages after it. -/
theorem Reads.cons {visit : Visit} {stop : LastKey} {rows : List (LastKey × AuditItem)} {ended : Bool}
    (stopped : ∀ bound ∈ start, index.order.lt bound stop)
    (rest : Reads index tier3Action (some stop) visits rows ended) :
    Reads index tier3Action start (visit :: visits)
      (pageRows index tier3Action visit.shown start (some stop) ++ rows) ended := by
  let order := index.order
  constructor
  · apply List.pairwise_append.mpr
    refine ⟨pairwise_pageRows, rest.sorted, fun first inPage second later => ?_⟩
    have before := (mem_pageRows.mp inPage).2.2 stop rfl
    exact lt_of_le_of_lt before (rest.after second later stop rfl)
  · intro row member bound held
    rcases List.mem_append.mp member with inPage | later
    · exact (mem_pageRows.mp inPage).2.1 bound held
    · exact lt_trans (stopped bound held) (rest.after row later stop rfl)
  · intro row member
    rcases List.mem_append.mp member with inPage | later
    · exact ⟨visit, List.mem_cons_self .., (mem_pageRows.mp inPage).1⟩
    · obtain ⟨further, within, shown⟩ := rest.shown row later
      exact ⟨further, List.mem_cons_of_mem _ within, shown⟩
  · intro done row after shown
    apply List.mem_append.mpr
    by_cases inPage : row.1 ≤ stop
    · have here := shown visit (List.mem_cons_self ..)
      exact Or.inl (mem_pageRows.mpr ⟨here, after, fun _ held => Option.some.inj held ▸ inPage⟩)
    · have beyond : ∀ bound ∈ some stop, index.order.lt bound row.1 :=
        fun _ held => Option.some.inj held ▸ not_le.mp inPage
      exact Or.inr (rest.complete done row beyond fun further within =>
        shown further (List.mem_cons_of_mem _ within))

/-- The last page. -/
theorem Reads.last (visit : Visit) :
    Reads index tier3Action start (visit :: visits)
      (pageRows index tier3Action visit.shown start none) true where
  sorted := pairwise_pageRows
  after _ member := (mem_pageRows.mp member).2.1
  shown _ member := ⟨visit, List.mem_cons_self .., (mem_pageRows.mp member).1⟩
  complete _ _ after shown :=
    mem_pageRows.mpr ⟨shown visit (List.mem_cons_self ..), after, fun _ held => nomatch held⟩

/-- Following the cursors returns, and reads what the pages come to. -/
theorem walk_reads (allowed : Allowed index tier3Action start visits)
    (matched : ∀ key ∈ start, ∀ wanted ∈ tier3Action, key.tier3Action = wanted) :
    ∃ rows ended, walk floats str index tier3Action
        (encodeCursor floats (start.map LastKey.attributes)) visits =
          .ok (rows.map fun row => entryOf str row.2, ended) ∧
      Reads index tier3Action start visits rows ended := by
  induction visits generalizing start with
  | nil =>
      refine ⟨[], false, rfl, .nil, ?_, ?_, fun done => nomatch done⟩
      · exact fun _ member => nomatch member
      · exact fun _ member => nomatch member
  | cons visit later ih =>
      obtain ⟨-, stops⟩ := allowed
      have page := @readAuditLog_eq floats str index _ _ visit matched
      cases stopped : visit.stop with
      | none =>
          rw [stopped] at page
          refine ⟨_, true, ?_, .last visit⟩
          rw [walk, page]
          rfl
      | some stop =>
          rw [stopped] at page stops
          obtain ⟨held, stops⟩ := stops
          obtain ⟨row, inPage, rfl⟩ := List.mem_map.mp held
          obtain ⟨chosen, after, -⟩ := mem_pageRows.mp inPage
          have matches_ : ∀ key ∈ some row.1, ∀ wanted ∈ tier3Action, key.tier3Action = wanted :=
            fun _ same => Option.some.inj same ▸ (mem_selected.mp chosen).2
          obtain ⟨rows, ended, walked, rest⟩ := ih stops matches_
          refine ⟨_, ended, ?_, rest.cons after⟩
          have cursor : ∃ text, encodeCursor floats ((some row.1).map LastKey.attributes) = some text :=
            ⟨_, rfl⟩
          obtain ⟨text, cursor⟩ := cursor
          rw [cursor] at page walked
          rw [walk, page]
          simp only [bind, Except.bind, walked, List.map_append]
          rfl

/-- The read view has the item, when this action is asked for. -/
def Wanted (tier3Action : Option String) (item : AuditItem) : Prop :=
  ∃ action, tier3Action? item = some action ∧ ∀ wanted ∈ tier3Action, action = wanted

theorem wanted_of_selected (member : row ∈ selected index tier3Action recorded) :
    Wanted tier3Action row.2 ∧ ∃ entry ∈ recorded, entry.item = row.2 := by
  obtain ⟨inIndex, matched⟩ := mem_selected.mp member
  obtain ⟨held, keyed⟩ := mem_indexed.mp inIndex
  obtain ⟨action, acted, same⟩ := Option.map_eq_some_iff.mp keyed
  obtain ⟨entry, within, made, -⟩ := recorded_of_lookup held
  rw [← same] at matched
  exact ⟨⟨action, acted, matched⟩, entry, within, made⟩

theorem lastKey?_of_action {action : String} (acted : tier3Action? item = some action) :
    lastKey? item = some ⟨item.pk, item.sk, action⟩ := by
  rw [lastKey?, acted, Option.map_some]

/-- What is recorded and kept is in the index, when it has an action. -/
theorem selected_of_action {entry : Recorded} {action : String} (kept : AppendOnly recorded)
    (member : entry ∈ recorded) (acted : tier3Action? entry.item = some action)
    (matched : ∀ wanted ∈ tier3Action, action = wanted) :
    ((⟨entry.item.pk, entry.item.sk, action⟩ : LastKey), entry.item) ∈
      selected index tier3Action recorded := by
  apply mem_selected.mpr
  refine ⟨mem_indexed.mpr ⟨?_, lastKey?_of_action acted⟩, matched⟩
  exact lookup_of_unreplaced kept.unreplaced member

/-- Rows of one action that are in the order of the index are in the order of their times. -/
theorem fields_le_of_lt {first second : LastKey × AuditItem} {action : String} {log : List Recorded}
    (firstIn : first ∈ selected index (some action) recorded)
    (secondIn : second ∈ selected index (some action) log)
    (before : index.order.lt first.1 second.1) :
    first.2.timestamp.fields ≤ second.2.timestamp.fields := by
  let order := index.order
  obtain ⟨firstIndexed, firstAction⟩ := mem_selected.mp firstIn
  obtain ⟨secondIndexed, secondAction⟩ := mem_selected.mp secondIn
  obtain ⟨-, early, -, madeEarly⟩ := wanted_of_selected firstIn
  obtain ⟨-, late, -, madeLate⟩ := wanted_of_selected secondIn
  have firstKey := key_of_lastKey? (mem_indexed.mp firstIndexed).2
  have secondKey := key_of_lastKey? (mem_indexed.mp secondIndexed).2
  apply not_lt.mp
  intro behind
  rw [← madeEarly, ← madeLate, item_timestamp, item_timestamp] at behind
  have keys : late.item.sk < early.item.sk := sk_lt_iff.mpr (Or.inl behind)
  rw [madeEarly, madeLate] at keys
  have sorted : second.1.sk < first.1.sk := by
    rw [← (Prod.mk.inj firstKey).2, ← (Prod.mk.inj secondKey).2]
    exact keys
  have actions : second.1.tier3Action = first.1.tier3Action :=
    (secondAction action rfl).trans (firstAction action rfl).symm
  exact lt_asymm before (index.bySortKey _ _ actions sorted)

/-- The order by action, sort key and partition. -/
def byKeys : IndexOrder where
  order := LinearOrder.lift'
    (fun key : LastKey => toLex (key.tier3Action, toLex (key.sk, key.pk))) (by
      intro first second same
      obtain ⟨pk, sk, action⟩ := first
      cases same
      rfl)
  bySortKey first second sameAction earlier := by
    apply (Prod.Lex.lt_iff ..).mpr
    exact Or.inr ⟨sameAction, (Prod.Lex.lt_iff ..).mpr (Or.inl earlier)⟩

/-- A session is terminated. -/
def termination : Submission :=
  ⟨.terminateSession, "s1", "admin", ⟨"k1", "TERMINATE s1", []⟩⟩

/-- Noon, and some seconds. -/
def atNoon (second : ℕ) (small : second ≤ 60) : Moment :=
  { (requestEvent "session.terminated" (by decide)).timestamp with
    second := second
    second_le := small }

/-- The clock is read then. -/
def noon (second : ℕ) (small : second ≤ 60) : Reading where
  clock := ⟨second, (atNoon second small).isoformat⟩
  timestamp := atNoon second small
  iso_eq := rfl

/-- The intent and the outcome of the termination. -/
def terminated : List Recorded :=
  [.intent termination "r1" (noon 1 (by decide)), .outcome termination "r1" none (noon 2 (by decide))]

/-- The outcome is recorded while the first page is read. -/
def growing : List Visit :=
  [⟨terminated.take 1, 1, some ⟨"AUDIT#admin-api#admin", "2025-05-07T12:00:01+00:00#r1",
      "terminate-session"⟩, "2025-05-07T12:00:02+00:00"⟩,
    ⟨terminated, 1, none, "2025-05-07T12:00:03+00:00"⟩]

theorem allowed_growing : Allowed byKeys (some "terminate-session") none growing := by
  refine ⟨?_, ?_, ?_, trivial⟩
  · decide +kernel
  · decide +kernel
  · decide +kernel

theorem toldApart_terminated : ToldApart terminated := by
  intro first firstIn second secondIn _ _ identifiers
  simp only [terminated, List.mem_cons, List.not_mem_nil, or_false] at firstIn secondIn
  obtain rfl | rfl := firstIn <;> obtain rfl | rfl := secondIn
  · rfl
  · exact absurd identifiers (by decide)
  · exact absurd identifiers (by decide)
  · rfl

/-- A codec that reads no floats. -/
def noFloats : PyFloats where
  read := Function.const _ none
  repr := fun _ => ⟨false, 0, some ⟨['5'], by decide, by simp⟩, none⟩
  isFloat := fun _ => Or.inl rfl
  read_repr := by
    intro _ _ reads
    cases reads

end Panakoes.AdminApi.AuditRead
