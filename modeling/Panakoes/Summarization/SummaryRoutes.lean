import Mathlib.Logic.Function.Basic
import Panakoes.Foundation.PyStrip
import Panakoes.Foundation.Run
import Panakoes.Summarization.SummaryStorage

/-! # The routes of the summarization service

`POST /summarize` reads a transcript of the user, has Claude summarize it, and writes the summary.
`GET /summary/{transcript_id}` and `GET /summaries` read items, and the object that each of them
names. Requests of any users interleave at each call. A call that ends with an error may have been
applied, and the table may show an item as it was at any time before.
-/

namespace Panakoes.Summarization.SummaryRoutes

open Transition ConditionalWrite

/-! ## Claude -/

/-- A block of the content of a message. -/
structure Block where
  type : Option String
  text : Option String

/-- What `messages.create` returns: the blocks, and the counters of `usage`. -/
structure Message where
  content : List Block
  inputTokens : Option ℤ
  outputTokens : Option ℤ

/-- `MODEL_FOR_TIER`. -/
def modelForTier : Tier → String
  | .haiku => "claude-haiku-4-5"
  | .sonnet => "claude-sonnet-4-6"

/-- What Claude is sent besides the system prompt. -/
structure Prompt where
  model : String
  text : String

/-- The prompt for a transcript. -/
def prompt (tier : Tier) (transcript : String) : Prompt :=
  ⟨modelForTier tier, "Summarize this transcript:\n\n" ++ transcript⟩

/-- `_extract_text`. -/
def extractText (message : Message) : String :=
  let texts := message.content.filter fun block => block.type = some "text"
  String.ofList (PyText.strip (texts.flatMap fun block => (block.text.getD "").toList))

/-! ## Keys and events -/

/-- `transcript_key`. -/
def transcriptKey (userId transcriptId : String) : String :=
  s!"transcripts/{userId}/{transcriptId}.txt"

/-- What `record_event` is given. -/
structure Event where
  actorId : String
  action : String
  resourceType : String
  resourceId : String
  details : List (String × PyJson)

/-- The event of a request that comes to nothing. -/
def failedEvent (userId transcriptId : String) (tier : Tier) (reason : String) : Event :=
  ⟨userId, "summarization.failed", "transcript", transcriptId,
    [("reason", .str reason), ("tier", .str tier.text)]⟩

/-- The event of a summary. -/
def completedEvent (call : SummaryCall) : Event :=
  ⟨call.userId, "summarization.completed", "summary", call.transcriptId,
    [("tier", .str call.tier.text), ("model", .str call.model),
      ("input_tokens", .int call.inputTokens), ("output_tokens", .int call.outputTokens)]⟩

/-! ## The routes -/

/-- A route with what it is asked. -/
inductive Route where
  /-- `POST /summarize`. -/
  | summarize (transcriptId : String) (tier : Tier)
  /-- `GET /summary/{transcript_id}`. -/
  | get (transcriptId : String)
  /-- `GET /summaries`. -/
  | list (limit : ℕ) (cursor : Option String)

/-- An answer: a record, a page, a 404 with its detail, or what is raised. -/
inductive Answer where
  | record (record : SummaryRecord)
  | page (items : List SummaryRecord) (nextCursor : Option String)
  | notFound (detail : String)
  | raised

/-- The call that a request has come to. -/
inductive Phase where
  | reading (transcriptId : String) (tier : Tier)
  | calling (transcriptId : String) (tier : Tier) (transcript : String)
  | puttingObject (call : SummaryCall)
  | puttingItem (call : SummaryCall)
  | recording (event : Event) (answer : Answer)
  | gettingItem (transcriptId : String)
  | querying (limit : ℕ) (cursor : Option String)
  | gettingObject (item : SummaryItem)
  | hydrating (item : SummaryItem) (rest : List SummaryItem) (records : List SummaryRecord)
      (nextCursor : Option String)
  | ended (answer : Answer)

/-- The first call of a route. -/
def Route.start : Route → Phase
  | .summarize transcriptId tier => .reading transcriptId tier
  | .get transcriptId => .gettingItem transcriptId
  | .list limit cursor => .querying limit cursor

/-- After the transcript has been read, or is not there. -/
def afterTranscript (userId transcriptId : String) (tier : Tier) : Option String → Phase
  | some transcript => .calling transcriptId tier transcript
  | none => .recording (failedEvent userId transcriptId tier "transcript_not_found")
      (.notFound "transcript not found")

/-- After Claude has answered, or the call has failed. -/
def afterCreate (userId transcriptId : String) (tier : Tier) (createdAt : String) :
    Option Message → Phase
  | some message => .puttingObject {
      userId := userId
      transcriptId := transcriptId
      summary := extractText message
      tier := tier
      model := modelForTier tier
      inputTokens := message.inputTokens.getD 0
      outputTokens := message.outputTokens.getD 0
      createdAt := createdAt }
  | none => .recording (failedEvent userId transcriptId tier "anthropic_call_failed") .raised

/-- `_record_from_item`, with the object that it has read. An object that is not there is a
`ClientError`. -/
def hydrate (item : SummaryItem) : Option String → Except Raised SummaryRecord
  | none => .error .clientError
  | some summaryText => recordFromItem item summaryText

/-- `get_summary`, after the item. -/
def afterItem : Option SummaryItem → Phase
  | none => .ended (.notFound "summary not found")
  | some item => .gettingObject item

/-- `list_summaries`, with the items that are left. -/
def afterItems (records : List SummaryRecord) (nextCursor : Option String) :
    List SummaryItem → Phase
  | [] => .ended (.page records nextCursor)
  | item :: rest => .hydrating item rest records nextCursor

/-! ## The run -/

variable {ι : Type}

/-- A request, with the user that its token names, the events that it has recorded, and the number of
summaries that Claude has made for it. -/
structure Request where
  userId : String
  route : Route
  phase : Phase
  events : List Event
  calls : ℕ

/-- What has been done: a transcript uploaded, and a prompt answered for a user and a transcript. -/
inductive Entry where
  | uploaded (key text : String)
  | created (userId transcriptId : String) (prompt : Prompt) (message : Message)

/-- The buckets, the items that have been put at any time, and what has been done, in order. -/
structure Store where
  transcripts : Table String String
  objects : Table String String
  items : List ((String × String) × SummaryItem)
  log : List Entry

/-- The stores and the requests. -/
structure World (ι : Type) where
  store : Store
  requests : ι → Option Request

/-- How a call ends. It ends with `fail` where it raises something that the route does not catch. -/
inductive CallEnd where
  | readTranscript
  | create (ending : Option Message) (createdAt : String)
  | put (fault : Fault)
  | getItem (found : Option SummaryItem)
  | query (page : List (String × SummaryItem)) (lastKey : Option String)
  | getObject
  | fail

/-- A step: someone else uploads a transcript, a request arrives, or its call ends. -/
inductive Action (ι : Type) where
  | upload (key text : String)
  | submit (id : ι) (userId : String) (route : Route)
  | call (id : ι) (ending : CallEnd)

/-- The table answers `get_item` with an item that it has held under the key, or with none. -/
def Store.ShowsItem (store : Store) (key : String × String) (found : Option SummaryItem) : Prop :=
  ∀ item ∈ found.toList, (key, item) ∈ store.items

/-- The table answers `query` with a page of what it has held under the partition key, in order behind
the cursor, and says where it stopped. -/
def Store.ShowsPage (store : Store) (pk : String) (limit : ℕ) (cursor : Option String)
    (page : List (String × SummaryItem)) (lastKey : Option String) : Prop :=
  (∀ entry ∈ page, ((pk, entry.1), entry.2) ∈ store.items) ∧
    (cursor.toList ++ page.map Prod.fst).Pairwise (· < ·) ∧ page.length ≤ limit ∧
    (lastKey = none ∨ lastKey = (page.map Prod.fst).getLast?)

instance (store : Store) (key : String × String) (found : Option SummaryItem) :
    Decidable (store.ShowsItem key found) :=
  inferInstanceAs (Decidable (∀ item ∈ found.toList, _))

instance (store : Store) (pk : String) (limit : ℕ) (cursor : Option String)
    (page : List (String × SummaryItem)) (lastKey : Option String) :
    Decidable (store.ShowsPage pk limit cursor page lastKey) :=
  inferInstanceAs (Decidable (_ ∧ _))

/-- Something has been done. -/
def Store.note (store : Store) (entry : Entry) : Store :=
  { store with log := store.log ++ [entry] }

/-- A transcript is uploaded. -/
def Store.upload (store : Store) (key text : String) : Store :=
  { store.note (.uploaded key text) with transcripts := store.transcripts.insert key text }

/-- The object of a summary is written. -/
def Store.putObject (store : Store) (call : SummaryCall) : Store :=
  let key := summaryKey call.userId call.transcriptId
  { store with objects := store.objects.insert key call.summary }

/-- The item of a summary is written. -/
def Store.putItem (store : Store) (call : SummaryCall) : Store :=
  let key := (summaryPk call.userId, summarySk call.transcriptId)
  { store with items := store.items ++ [(key, call.item)] }

/-- What the end of a call leads to: the store, the next call, the events that have been recorded and
the number of summaries that have been made. -/
structure Moved where
  store : Store
  phase : Phase
  events : List Event := []
  calls : ℕ := 0

/-- The end of a write: the next call, or an error, which may come after the write. -/
def afterPut (fault : Fault) (before applied : Moved) : Moved :=
  let outcome := put fault before applied
  { outcome.table with phase := if outcome.reply = .ok then applied.phase else .ended .raised }

/-- The end of a call. -/
def proceed (store : Store) (userId : String) : Phase → CallEnd → Option Moved
  | .reading transcriptId tier, .readTranscript =>
      let found := store.transcripts.lookup (transcriptKey userId transcriptId)
      some { store, phase := afterTranscript userId transcriptId tier found }
  | .calling transcriptId tier transcript, .create (some message) createdAt =>
      some {
        store := store.note (.created userId transcriptId (prompt tier transcript) message)
        phase := afterCreate userId transcriptId tier createdAt (some message)
        calls := 1 }
  | .calling transcriptId tier _, .create none createdAt =>
      some { store, phase := afterCreate userId transcriptId tier createdAt none }
  | .puttingObject call, .put fault =>
      some (afterPut fault { store, phase := .puttingObject call }
        { store := store.putObject call, phase := .puttingItem call })
  | .puttingItem call, .put fault =>
      some (afterPut fault { store, phase := .puttingItem call }
        { store := store.putItem call,
          phase := .recording (completedEvent call) (.record call.record) })
  | .recording event answer, .put fault =>
      some (afterPut fault { store, phase := .recording event answer }
        { store, phase := .ended answer, events := [event] })
  | .gettingItem transcriptId, .getItem found =>
      if store.ShowsItem (summaryPk userId, summarySk transcriptId) found then
        some { store, phase := afterItem found }
      else none
  | .querying limit cursor, .query page lastKey =>
      if store.ShowsPage (summaryPk userId) limit cursor page lastKey then
        some { store, phase := afterItems [] lastKey (page.map Prod.snd) }
      else none
  | .gettingObject item, .getObject =>
      match hydrate item (store.objects.lookup item.s3Key) with
      | .error _ => some { store, phase := .ended .raised }
      | .ok record => some { store, phase := .ended (.record record) }
  | .hydrating item rest records nextCursor, .getObject =>
      match hydrate item (store.objects.lookup item.s3Key) with
      | .error _ => some { store, phase := .ended .raised }
      | .ok record => some { store, phase := afterItems (records ++ [record]) nextCursor rest }
  | .reading .., .fail | .gettingItem _, .fail | .querying .., .fail | .gettingObject _, .fail
  | .hydrating .., .fail => some { store, phase := .ended .raised }
  | _, _ => none

variable [DecidableEq ι]

/-- A request is as given. -/
def World.update (world : World ι) (id : ι) (store : Store) (request : Request) : World ι :=
  ⟨store, Function.update world.requests id (some request)⟩

/-- A request whose call has ended. -/
def Request.move (request : Request) (moved : Moved) : Request :=
  { request with
    phase := moved.phase
    events := request.events ++ moved.events
    calls := request.calls + moved.calls }

/-- One step. -/
def step (world : World ι) : Action ι → Option (World ι)
  | .upload key text => some { world with store := world.store.upload key text }
  | .submit id userId route =>
      if world.requests id = none then
        some (world.update id world.store ⟨userId, route, route.start, [], 0⟩)
      else none
  | .call id ending =>
      (world.requests id).bind fun request =>
        (proceed world.store request.userId request.phase ending).map fun moved =>
          world.update id moved.store (request.move moved)

/-! ## What a step does -/

variable {store : Store} {userId : String} {phase : Phase} {moved : Moved}

/-- A call that may raise something that the route does not catch. -/
def Phase.Fails : Phase → Prop
  | .calling .. | .ended _ => False
  | _ => True

/-- What the end of a call may lead to. -/
inductive Moves (store : Store) (userId : String) : Phase → Moved → Prop
  | readTranscript (transcriptId : String) (tier : Tier) :
      Moves store userId (.reading transcriptId tier)
        { store, phase := afterTranscript userId transcriptId tier
            (store.transcripts.lookup (transcriptKey userId transcriptId)) }
  | created (transcriptId : String) (tier : Tier) (transcript createdAt : String)
      (message : Message) :
      Moves store userId (.calling transcriptId tier transcript)
        { store := store.note (.created userId transcriptId (prompt tier transcript) message)
          phase := afterCreate userId transcriptId tier createdAt (some message), calls := 1 }
  | uncreated (transcriptId : String) (tier : Tier) (transcript createdAt : String) :
      Moves store userId (.calling transcriptId tier transcript)
        { store, phase := afterCreate userId transcriptId tier createdAt none }
  | putObject (call : SummaryCall) :
      Moves store userId (.puttingObject call)
        { store := store.putObject call, phase := .puttingItem call }
  | putItem (call : SummaryCall) :
      Moves store userId (.puttingItem call)
        { store := store.putItem call,
          phase := .recording (completedEvent call) (.record call.record) }
  | recorded (event : Event) (answer : Answer) :
      Moves store userId (.recording event answer)
        { store, phase := .ended answer, events := [event] }
  | unackedObject (call : SummaryCall) :
      Moves store userId (.puttingObject call)
        { store := store.putObject call, phase := .ended .raised }
  | unackedItem (call : SummaryCall) :
      Moves store userId (.puttingItem call)
        { store := store.putItem call, phase := .ended .raised }
  | unackedEvent (event : Event) (answer : Answer) :
      Moves store userId (.recording event answer)
        { store, phase := .ended .raised, events := [event] }
  | gotItem {transcriptId : String} {found : Option SummaryItem}
      (shows : store.ShowsItem (summaryPk userId, summarySk transcriptId) found) :
      Moves store userId (.gettingItem transcriptId) { store, phase := afterItem found }
  | queried {limit : ℕ} {cursor : Option String} {page : List (String × SummaryItem)}
      {lastKey : Option String}
      (shows : store.ShowsPage (summaryPk userId) limit cursor page lastKey) :
      Moves store userId (.querying limit cursor)
        { store, phase := afterItems [] lastKey (page.map Prod.snd) }
  | gotObject {item : SummaryItem} {record : SummaryRecord}
      (read : hydrate item (store.objects.lookup item.s3Key) = .ok record) :
      Moves store userId (.gettingObject item) { store, phase := .ended (.record record) }
  | hydrated {item : SummaryItem} {record : SummaryRecord} (rest : List SummaryItem)
      (records : List SummaryRecord) (nextCursor : Option String)
      (read : hydrate item (store.objects.lookup item.s3Key) = .ok record) :
      Moves store userId (.hydrating item rest records nextCursor)
        { store, phase := afterItems (records ++ [record]) nextCursor rest }
  | failed {phase : Phase} (fails : phase.Fails) :
      Moves store userId phase { store, phase := .ended .raised }

theorem moves_of_proceed {ending : CallEnd}
    (taken : proceed store userId phase ending = some moved) : Moves store userId phase moved := by
  unfold proceed at taken
  split at taken
  case h_1 transcriptId tier => exact Option.some.inj taken ▸ .readTranscript transcriptId tier
  case h_2 transcriptId tier transcript message createdAt =>
    exact Option.some.inj taken ▸ .created transcriptId tier transcript createdAt message
  case h_3 transcriptId tier transcript createdAt =>
    exact Option.some.inj taken ▸ .uncreated transcriptId tier transcript createdAt
  case h_4 call fault =>
    obtain rfl := Option.some.inj taken
    cases fault with
    | none | retried => exact .putObject call
    | lost => exact .failed trivial
    | unacked => exact .unackedObject call
  case h_5 call fault =>
    obtain rfl := Option.some.inj taken
    cases fault with
    | none | retried => exact .putItem call
    | lost => exact .failed trivial
    | unacked => exact .unackedItem call
  case h_6 event answer fault =>
    obtain rfl := Option.some.inj taken
    cases fault with
    | none | retried => exact .recorded event answer
    | lost => exact .failed trivial
    | unacked => exact .unackedEvent event answer
  case h_7 transcriptId found =>
    obtain ⟨shows, taken⟩ := Option.ite_none_right_eq_some.mp taken
    exact Option.some.inj taken ▸ .gotItem shows
  case h_8 limit cursor page lastKey =>
    obtain ⟨shows, taken⟩ := Option.ite_none_right_eq_some.mp taken
    exact Option.some.inj taken ▸ .queried shows
  case h_9 item =>
    cases read : hydrate item (store.objects.lookup item.s3Key) with
    | error raised =>
        rw [read] at taken
        exact Option.some.inj taken ▸ .failed trivial
    | ok record =>
        rw [read] at taken
        exact Option.some.inj taken ▸ .gotObject read
  case h_10 item rest records nextCursor =>
    cases read : hydrate item (store.objects.lookup item.s3Key) with
    | error raised =>
        rw [read] at taken
        exact Option.some.inj taken ▸ .failed trivial
    | ok record =>
        rw [read] at taken
        exact Option.some.inj taken ▸ .hydrated rest records nextCursor read
  case h_16 => cases taken
  all_goals exact Option.some.inj taken ▸ .failed trivial

variable {world after : World ι} {action : Action ι}

/-- **A step** is an upload, the arrival of a request or the end of a call. -/
theorem step_cases (taken : step world action = some after) :
    (∃ key text, after = { world with store := world.store.upload key text }) ∨
    (∃ id userId route, action = .submit id userId route ∧ world.requests id = none ∧
      after = world.update id world.store ⟨userId, route, route.start, [], 0⟩) ∨
    ∃ id request moved, world.requests id = some request ∧
      Moves world.store request.userId request.phase moved ∧
      after = world.update id moved.store (request.move moved) := by
  cases action with
  | upload key text => exact Or.inl ⟨key, text, (Option.some.inj taken).symm⟩
  | submit id userId route =>
      obtain ⟨fresh, arrived⟩ := Option.ite_none_right_eq_some.mp taken
      exact Or.inr (Or.inl ⟨id, userId, route, rfl, fresh, (Option.some.inj arrived).symm⟩)
  | call id ending =>
      obtain ⟨request, held, taken⟩ := Option.bind_eq_some_iff.mp taken
      obtain ⟨moved, ended, same⟩ := Option.map_eq_some_iff.mp taken
      exact Or.inr (Or.inr ⟨id, request, moved, held, moves_of_proceed ended, same.symm⟩)

/-! ## Whose summaries are answered -/

section Keys

variable {first second rest other : List Char} {user another transcriptId item : String}

/-- Texts that agree up to their first slash, and behind it. -/
theorem eq_of_slash (same : first ++ '/' :: rest = second ++ '/' :: other) (slashless : '/' ∉ first)
    (without : '/' ∉ second) : first = second ∧ rest = other := by
  rcases List.append_eq_append_iff.mp same with ⟨more, longer, tail⟩ | ⟨more, longer, tail⟩
  · cases more with
    | nil =>
        rw [List.append_nil] at longer
        exact ⟨longer.symm, (List.cons.inj tail).2⟩
    | cons char more =>
        obtain ⟨rfl, -⟩ := List.cons.inj tail
        exact absurd (longer ▸ List.mem_append_right _ List.mem_cons_self) without
  · cases more with
    | nil =>
        rw [List.append_nil] at longer
        exact ⟨longer, (List.cons.inj tail).2.symm⟩
    | cons char more =>
        obtain ⟨rfl, -⟩ := List.cons.inj tail
        exact absurd (longer ▸ List.mem_append_right _ List.mem_cons_self) slashless

/-- The object of a summary is of one user and one transcript, if no user has a slash. -/
theorem summaryKey_inj (same : summaryKey user transcriptId = summaryKey another item)
    (slashless : '/' ∉ user.toList) (without : '/' ∉ another.toList) :
    user = another ∧ transcriptId = item := by
  have slash : "/".toList = ['/'] := by decide
  have texts := congrArg String.toList same
  simp only [summaryKey, toString, String.toList_append, List.append_assoc,
    List.append_cancel_left_eq, slash, List.singleton_append] at texts
  obtain ⟨users, transcripts⟩ := eq_of_slash texts slashless without
  exact ⟨String.ext users, String.ext (List.append_cancel_right transcripts)⟩

example : summaryKey "a" "b/c" = summaryKey "a/b" "c" := by decide +kernel

theorem summaryPk_inj (same : summaryPk user = summaryPk another) : user = another := by
  have texts := congrArg String.toList same
  simp only [summaryPk, toString, String.toList_append, List.append_cancel_left_eq] at texts
  exact String.ext texts

theorem summarySk_inj (same : summarySk transcriptId = summarySk item) : transcriptId = item := by
  have texts := congrArg String.toList same
  simp only [summarySk, toString, String.toList_append, List.append_cancel_left_eq] at texts
  exact String.ext texts

end Keys

/-- The text is what Claude has made of a transcript that was uploaded for the user, under this id. -/
def Summarized (log : List Entry) (userId transcriptId text : String) : Prop :=
  ∃ tier transcript message, .uploaded (transcriptKey userId transcriptId) transcript ∈ log ∧
    .created userId transcriptId (prompt tier transcript) message ∈ log ∧
    text = extractText message

/-- A record of the user, with a summary of the transcript it names. -/
def Own (log : List Entry) (userId : String) (record : SummaryRecord) : Prop :=
  record.userId = userId ∧ Summarized log userId record.transcriptId record.summary

/-- The transcript that a route names, if it names one. -/
def Route.transcriptId : Route → Option String
  | .summarize transcriptId _ | .get transcriptId => some transcriptId
  | .list .. => none

/-- The records of an answer are of the user, and of the transcript that was asked for. -/
def Answer.Sound (userId : String) (route : Route) (log : List Entry) : Answer → Prop
  | .record found => Own log userId found ∧ route.transcriptId = some found.transcriptId
  | .page items _ => route.transcriptId = none ∧ ∀ found ∈ items, Own log userId found
  | .notFound _ | .raised => True

/-- An item of the user, which names its own object. -/
def Filed (userId : String) (item : SummaryItem) : Prop :=
  item.userId = userId ∧ item.s3Key = summaryKey userId item.transcriptId

/-- Where a phase has its data from. -/
def Phase.Sound (userId : String) (route : Route) (log : List Entry) : Phase → Prop
  | .reading transcriptId _ | .gettingItem transcriptId => route.transcriptId = some transcriptId
  | .calling transcriptId _ transcript => route.transcriptId = some transcriptId ∧
      .uploaded (transcriptKey userId transcriptId) transcript ∈ log
  | .puttingObject call | .puttingItem call => route.transcriptId = some call.transcriptId ∧
      call.userId = userId ∧ Summarized log userId call.transcriptId call.summary
  | .recording _ answer | .ended answer => answer.Sound userId route log
  | .querying .. => route.transcriptId = none
  | .gettingObject item => route.transcriptId = some item.transcriptId ∧ Filed userId item
  | .hydrating item rest records _ => route.transcriptId = none ∧
      (∀ other ∈ item :: rest, Filed userId other) ∧ ∀ record ∈ records, Own log userId record

/-- The buckets and the table hold what the log says. No user has a slash. -/
structure Store.Kept (store : Store) : Prop where
  transcripts : ∀ key text, store.transcripts.lookup key = some text →
    .uploaded key text ∈ store.log
  objects : ∀ key text, store.objects.lookup key = some text → ∃ userId transcriptId,
    '/' ∉ userId.toList ∧ key = summaryKey userId transcriptId ∧
      Summarized store.log userId transcriptId text
  items : ∀ key item, (key, item) ∈ store.items → ∃ userId,
    key = (summaryPk userId, summarySk item.transcriptId) ∧ Filed userId item

variable {route : Route} {log more : List Entry} {record : SummaryRecord} {answer : Answer}
  {transcriptId text : String} {item : SummaryItem}

/-- What the log says once, it says for good. -/
theorem Summarized.mono (summarized : Summarized log userId transcriptId text) (grows : log ⊆ more) :
    Summarized more userId transcriptId text := by
  obtain ⟨tier, transcript, message, uploaded, created, made⟩ := summarized
  exact ⟨tier, transcript, message, grows uploaded, grows created, made⟩

theorem Own.mono (own : Own log userId record) (grows : log ⊆ more) : Own more userId record :=
  ⟨own.1, own.2.mono grows⟩

theorem Answer.Sound.mono (sound : answer.Sound userId route log) (grows : log ⊆ more) :
    answer.Sound userId route more := by
  cases answer with
  | record found => exact ⟨sound.1.mono grows, sound.2⟩
  | page items nextCursor =>
      exact ⟨sound.1, fun found member => (sound.2 found member).mono grows⟩
  | notFound detail => trivial
  | raised => trivial

theorem Phase.Sound.mono (sound : phase.Sound userId route log) (grows : log ⊆ more) :
    phase.Sound userId route more := by
  cases phase with
  | calling transcriptId tier transcript => exact ⟨sound.1, grows sound.2⟩
  | puttingObject call | puttingItem call => exact ⟨sound.1, sound.2.1, sound.2.2.mono grows⟩
  | recording _ answer | ended answer => exact Answer.Sound.mono sound grows
  | hydrating item rest records nextCursor =>
      exact ⟨sound.1, sound.2.1, fun record member => (sound.2.2 record member).mono grows⟩
  | reading | gettingItem | querying | gettingObject => exact sound

/-- A record is made of an item and a text. -/
theorem recordFromItem_eq_ok (made : recordFromItem item text = .ok record) :
    record.userId = item.userId ∧ record.transcriptId = item.transcriptId ∧
      record.summary = text := by
  unfold recordFromItem at made
  split at made
  · cases made
  · cases made
    exact ⟨rfl, rfl, rfl⟩

/-- An item of the user is read with a summary of its own transcript. -/
theorem own_of_hydrate (kept : store.Kept) (slashless : '/' ∉ userId.toList)
    (filed : Filed userId item)
    (read : hydrate item (store.objects.lookup item.s3Key) = .ok record) :
    Own store.log userId record ∧ record.transcriptId = item.transcriptId := by
  cases held : store.objects.lookup item.s3Key with
  | none =>
      rw [held] at read
      cases read
  | some text =>
      rw [held] at read
      obtain ⟨user, transcript, summary⟩ := recordFromItem_eq_ok read
      obtain ⟨another, other, without, key, summarized⟩ := kept.objects _ _ held
      obtain ⟨rfl, rfl⟩ := summaryKey_inj (filed.2.symm.trans key) slashless without
      refine ⟨⟨user.trans filed.1, ?_⟩, transcript⟩
      rw [transcript, summary]
      exact summarized

theorem Store.Kept.note (kept : store.Kept) (entry : Entry) : (store.note entry).Kept where
  transcripts key text held := List.mem_append_left _ (kept.transcripts key text held)
  objects key text held := by
    obtain ⟨userId, transcriptId, slashless, same, summarized⟩ := kept.objects key text held
    exact ⟨userId, transcriptId, slashless, same, summarized.mono (List.subset_append_left _ _)⟩
  items := kept.items

theorem Store.Kept.upload (kept : store.Kept) (key text : String) :
    (store.upload key text).Kept where
  transcripts other found held := by
    rcases Table.lookup_insert_cases held with ⟨rfl, rfl⟩ | ⟨-, before⟩
    · exact List.mem_append_right _ (List.mem_singleton_self _)
    · exact List.mem_append_left _ (kept.transcripts other found before)
  objects := (kept.note _).objects
  items := kept.items

theorem Store.Kept.putObject (kept : store.Kept) {call : SummaryCall}
    (slashless : '/' ∉ call.userId.toList)
    (summarized : Summarized store.log call.userId call.transcriptId call.summary) :
    (store.putObject call).Kept where
  transcripts := kept.transcripts
  objects key found held := by
    rcases Table.lookup_insert_cases held with ⟨rfl, rfl⟩ | ⟨-, before⟩
    · exact ⟨call.userId, call.transcriptId, slashless, rfl, summarized⟩
    · exact kept.objects key found before
  items := kept.items

theorem Store.Kept.putItem (kept : store.Kept) (call : SummaryCall) : (store.putItem call).Kept where
  transcripts := kept.transcripts
  objects := kept.objects
  items key item member := by
    rcases List.mem_append.mp member with before | now
    · exact kept.items key item before
    · cases List.mem_singleton.mp now
      exact ⟨call.userId, rfl, rfl, rfl⟩

theorem sound_afterItems {records : List SummaryRecord} {nextCursor : Option String}
    {items : List SummaryItem} (unnamed : route.transcriptId = none)
    (own : ∀ record ∈ records, Own log userId record) (filed : ∀ item ∈ items, Filed userId item) :
    (afterItems records nextCursor items).Sound userId route log := by
  cases items with
  | nil => exact ⟨unnamed, own⟩
  | cons item rest => exact ⟨unnamed, filed, own⟩

/-- The end of a call keeps what the buckets and the table hold, and gives the request its data. -/
theorem Moves.kept (moves : Moves store userId phase moved) (kept : store.Kept)
    (slashless : '/' ∉ userId.toList) (sound : phase.Sound userId route store.log) :
    moved.store.Kept ∧ store.log ⊆ moved.store.log ∧
      moved.phase.Sound userId route moved.store.log := by
  have same : store.log ⊆ store.log := fun _ member => member
  cases moves with
  | readTranscript transcriptId tier =>
      refine ⟨kept, same, ?_⟩
      cases held : store.transcripts.lookup (transcriptKey userId transcriptId) with
      | none => trivial
      | some transcript => exact ⟨sound, kept.transcripts _ _ held⟩
  | created transcriptId tier transcript createdAt message =>
      refine ⟨kept.note _, List.subset_append_left _ _, sound.1, rfl, tier, transcript, message,
        ?_, ?_, rfl⟩
      · exact List.mem_append_left _ sound.2
      · exact List.mem_append_right _ (List.mem_singleton_self _)
  | uncreated transcriptId tier transcript createdAt => exact ⟨kept, same, trivial⟩
  | putObject call =>
      obtain ⟨named, rfl, summarized⟩ := sound
      exact ⟨kept.putObject slashless summarized, same, named, rfl, summarized⟩
  | unackedObject call =>
      obtain ⟨named, rfl, summarized⟩ := sound
      exact ⟨kept.putObject slashless summarized, same, trivial⟩
  | putItem call =>
      obtain ⟨named, rfl, summarized⟩ := sound
      exact ⟨kept.putItem call, same, ⟨rfl, summarized⟩, named⟩
  | unackedItem call => exact ⟨kept.putItem call, same, trivial⟩
  | recorded event answer => exact ⟨kept, same, sound⟩
  | unackedEvent event answer => exact ⟨kept, same, trivial⟩
  | @gotItem transcriptId found shows =>
      refine ⟨kept, same, ?_⟩
      cases found with
      | none => trivial
      | some item =>
          obtain ⟨another, key, filed⟩ := kept.items _ _ (shows item (List.mem_singleton_self _))
          obtain ⟨partition, sort⟩ := Prod.mk.inj key
          obtain rfl := summaryPk_inj partition
          obtain rfl := summarySk_inj sort
          exact ⟨sound, filed⟩
  | @queried limit cursor page lastKey shows =>
      refine ⟨kept, same, sound_afterItems sound (fun _ none => absurd none List.not_mem_nil) ?_⟩
      intro item member
      obtain ⟨entry, among, rfl⟩ := List.mem_map.mp member
      obtain ⟨another, key, filed⟩ := kept.items _ _ (shows.1 entry among)
      obtain rfl := summaryPk_inj (Prod.mk.inj key).1
      exact filed
  | gotObject read =>
      obtain ⟨own, about⟩ := own_of_hydrate kept slashless sound.2 read
      exact ⟨kept, same, own, sound.1.trans (congrArg some about.symm)⟩
  | @hydrated item record rest records nextCursor read =>
      obtain ⟨unnamed, filed, own⟩ := sound
      refine ⟨kept, same, sound_afterItems unnamed ?_ fun other among =>
        filed other (List.mem_cons_of_mem _ among)⟩
      intro found member
      rcases List.mem_append.mp member with earlier | now
      · exact own found earlier
      · obtain rfl := List.mem_singleton.mp now
        exact (own_of_hydrate kept slashless (filed item List.mem_cons_self) read).1
  | failed fails => exact ⟨kept, same, trivial⟩

/-- A request of an updated world is the one it was updated with, or was there before. -/
theorem update_cases {id other : ι} {request later : Request}
    (held : (world.update id store request).requests other = some later) :
    other = id ∧ later = request ∨ other ≠ id ∧ world.requests other = some later := by
  by_cases same : other = id
  · simp only [World.update, same, Function.update_self] at held
    exact Or.inl ⟨same, (Option.some.inj held).symm⟩
  · simp only [World.update, Function.update_of_ne same] at held
    exact Or.inr ⟨same, held⟩

/-- The stores are kept, and the requests have their data from the log. -/
def World.Kept (world : World ι) : Prop :=
  world.store.Kept ∧ ∀ id request, world.requests id = some request →
    '/' ∉ request.userId.toList ∧ request.phase.Sound request.userId request.route world.store.log

/-- The user of a request has no slash. -/
def Slashless : Action ι → Prop
  | .submit _ userId _ => '/' ∉ userId.toList
  | _ => True

theorem World.Kept.step (kept : world.Kept) (slashless : Slashless action)
    (taken : step world action = some after) : after.Kept := by
  obtain ⟨kept, requests⟩ := kept
  rcases step_cases taken with ⟨key, text, rfl⟩ | ⟨id, userId, route, rfl, fresh, rfl⟩ |
    ⟨id, request, moved, held, moves, rfl⟩
  · refine ⟨kept.upload key text, fun id request held => ?_⟩
    obtain ⟨without, sound⟩ := requests id request held
    exact ⟨without, sound.mono (List.subset_append_left _ _)⟩
  · refine ⟨kept, fun other later held => ?_⟩
    rcases update_cases held with ⟨rfl, rfl⟩ | ⟨-, before⟩
    · refine ⟨slashless, ?_⟩
      cases route with
      | summarize transcriptId tier => rfl
      | get transcriptId => rfl
      | list limit cursor => rfl
    · exact requests other later before
  · obtain ⟨without, sound⟩ := requests id request held
    obtain ⟨kept, grows, sound⟩ := moves.kept kept without sound
    refine ⟨kept, fun other later held => ?_⟩
    rcases update_cases held with ⟨rfl, rfl⟩ | ⟨-, before⟩
    · exact ⟨without, sound⟩
    · obtain ⟨without, sound⟩ := requests other later before
      exact ⟨without, sound.mono grows⟩

/-- Before the first request. -/
def World.start : World ι := ⟨⟨∅, ∅, [], []⟩, fun _ => none⟩

omit [DecidableEq ι] in
theorem World.Kept.start : (World.start : World ι).Kept := by
  refine ⟨⟨?_, ?_, fun key item member => absurd member List.not_mem_nil⟩, ?_⟩
  · intro key text held
    rw [World.start, AList.lookup_empty] at held
    cases held
  · intro key text held
    rw [World.start, AList.lookup_empty] at held
    cases held
  · intro id request held
    cases held

/-- **Summaries are of their own user.** Whatever requests of whatever users interleave, and whatever
fails: if no user has a slash, every record that a request is answered with is of its user, is of the
transcript that was asked for, and has the text that Claude made of a transcript uploaded under the
key of that user and that transcript. -/
theorem answers_own (actions : List (Action ι)) (slashless : ∀ action ∈ actions, Slashless action)
    (final : World ι) (run : execute step World.start actions = some final) (id : ι)
    (request : Request) (held : final.requests id = some request) (answer : Answer)
    (ended : request.phase = .ended answer) :
    answer.Sound request.userId request.route final.store.log := by
  have kept : final.Kept := execute_invariant_of_actions World.Kept.start
    (fun _ _ _ kept slashless taken => kept.step slashless taken) slashless run
  have sound := (kept.2 id request held).2
  rw [ended] at sound
  exact sound

/-- A summary that is asked for. -/
def sampleCall : SummaryCall :=
  ⟨"u-1", "t-1", "A greeting.", .haiku, "claude-haiku-4-5", 40, 5, "2026-07-01T09:00:00+00:00"⟩

/-- A transcript is uploaded and summarized, and the summary is read back. -/
def sampleRun : List (Action ℕ) :=
  [.upload "transcripts/u-1/t-1.txt" "Hello.", .submit 0 "u-1" (.summarize "t-1" .haiku),
    .call 0 .readTranscript,
    .call 0 (.create (some ⟨[⟨some "text", some " A greeting.\n"⟩], some 40, some 5⟩)
      sampleCall.createdAt),
    .call 0 (.put .none), .call 0 (.put .retried), .call 0 (.put .none),
    .submit 1 "u-1" (.get "t-1"), .call 1 (.getItem (some sampleCall.item)), .call 1 .getObject]

/-- The summary that is read back is of the user. -/
theorem answers_own_readBack :
    ∃ final, execute step World.start sampleRun = some final ∧
      (Answer.record sampleCall.record).Sound "u-1" (.get "t-1") final.store.log := by
  refine ⟨_, rfl, ?_⟩
  have slashless : ∀ action ∈ sampleRun, Slashless action := by
    have named : '/' ∉ "u-1".toList := by decide
    simp only [sampleRun, List.forall_mem_cons, Slashless, named, not_false_eq_true, true_and,
      List.not_mem_nil, false_implies, implies_true]
  exact answers_own sampleRun slashless _ rfl 1 _ rfl _ rfl

/-! ## What the requests have done -/

/-- The event that a request to summarize has to record before its answer, and how many summaries it
has had made. -/
inductive Due (userId transcriptId : String) (tier : Tier)
    (items : List ((String × String) × SummaryItem)) : Event → Answer → ℕ → Prop
  | missing : Due userId transcriptId tier items
      (failedEvent userId transcriptId tier "transcript_not_found")
      (.notFound "transcript not found") 0
  | uncalled : Due userId transcriptId tier items
      (failedEvent userId transcriptId tier "anthropic_call_failed") .raised 0
  | completed (call : SummaryCall) (user : call.userId = userId)
      (transcript : call.transcriptId = transcriptId) (same : call.tier = tier)
      (filed : ((summaryPk userId, summarySk transcriptId), call.item) ∈ items) :
      Due userId transcriptId tier items (completedEvent call) (.record call.record) 1

/-- What a request to summarize has done when it is answered. What it raises is told by its event, or
is that a call has failed. -/
def Closed (userId transcriptId : String) (tier : Tier)
    (items : List ((String × String) × SummaryItem)) (events : List Event) (calls : ℕ)
    (answer : Answer) : Prop :=
  (∃ event, events = [event] ∧ Due userId transcriptId tier items event answer calls) ∨
    answer = .raised ∧ (events = [] ∧ calls ≤ 1 ∨
      ∃ event due, events = [event] ∧ Due userId transcriptId tier items event due calls)

/-- A route that only reads. -/
def Route.Reads : Route → Prop
  | .summarize .. => False
  | .get _ | .list .. => True

/-- What a request has done so far. -/
def Phase.Told (userId : String) (route : Route) (items : List ((String × String) × SummaryItem))
    (events : List Event) (calls : ℕ) : Phase → Prop
  | .reading transcriptId tier | .calling transcriptId tier _ =>
      route = .summarize transcriptId tier ∧ events = [] ∧ calls = 0
  | .puttingObject call | .puttingItem call =>
      (route = .summarize call.transcriptId call.tier ∧ call.userId = userId) ∧
        events = [] ∧ calls = 1
  | .recording event answer => ∃ transcriptId tier, route = .summarize transcriptId tier ∧
      events = [] ∧ Due userId transcriptId tier items event answer calls
  | .gettingItem _ | .querying .. | .gettingObject _ | .hydrating .. =>
      route.Reads ∧ events = [] ∧ calls = 0
  | .ended answer => route.Reads ∧ events = [] ∧ calls = 0 ∨
      ∃ transcriptId tier, route = .summarize transcriptId tier ∧
        Closed userId transcriptId tier items events calls answer

section Tells

variable {items moreItems : List ((String × String) × SummaryItem)} {events : List Event} {calls : ℕ}
  {event : Event} {tier : Tier}

theorem Due.mono (due : Due userId transcriptId tier items event answer calls)
    (grows : items ⊆ moreItems) : Due userId transcriptId tier moreItems event answer calls := by
  cases due with
  | missing => exact .missing
  | uncalled => exact .uncalled
  | completed call user transcript same filed =>
      exact .completed call user transcript same (grows filed)

theorem Due.calls_le (due : Due userId transcriptId tier items event answer calls) : calls ≤ 1 := by
  cases due with
  | missing | uncalled => exact Nat.zero_le 1
  | completed => exact le_refl 1

theorem Phase.Told.mono (told : phase.Told userId route items events calls)
    (grows : items ⊆ moreItems) : phase.Told userId route moreItems events calls := by
  cases phase with
  | reading | calling | puttingObject | puttingItem => exact told
  | gettingItem | querying | gettingObject | hydrating => exact told
  | recording event answer =>
      obtain ⟨transcriptId, tier, named, none, due⟩ := told
      exact ⟨transcriptId, tier, named, none, due.mono grows⟩
  | ended answer =>
      rcases told with reads | ⟨transcriptId, tier, named, closed⟩
      · exact Or.inl reads
      · refine Or.inr ⟨transcriptId, tier, named, ?_⟩
        rcases closed with ⟨event, only, due⟩ | ⟨raised, none | ⟨event, answer, only, due⟩⟩
        · exact Or.inl ⟨event, only, due.mono grows⟩
        · exact Or.inr ⟨raised, Or.inl none⟩
        · exact Or.inr ⟨raised, Or.inr ⟨event, answer, only, due.mono grows⟩⟩

/-- Before the end a call that raises ends the request with one call of Claude at most, and with no
event. -/
theorem told_of_fails (fails : phase.Fails) (told : phase.Told userId route items events calls) :
    (Phase.ended .raised).Told userId route items events calls := by
  cases phase with
  | calling | ended => exact absurd fails id
  | reading transcriptId tier =>
      obtain ⟨named, none, rfl⟩ := told
      exact Or.inr ⟨transcriptId, tier, named, Or.inr ⟨rfl, Or.inl ⟨none, Nat.zero_le 1⟩⟩⟩
  | puttingObject call | puttingItem call =>
      obtain ⟨⟨named, -⟩, none, rfl⟩ := told
      exact Or.inr ⟨_, _, named, Or.inr ⟨rfl, Or.inl ⟨none, le_refl 1⟩⟩⟩
  | recording event answer =>
      obtain ⟨transcriptId, tier, named, none, due⟩ := told
      exact Or.inr ⟨transcriptId, tier, named, Or.inr ⟨rfl, Or.inl ⟨none, due.calls_le⟩⟩⟩
  | gettingItem | querying | gettingObject | hydrating => exact Or.inl told

theorem told_afterItems {records : List SummaryRecord} {nextCursor : Option String}
    {rest : List SummaryItem} (told : route.Reads ∧ events = [] ∧ calls = 0) :
    (afterItems records nextCursor rest).Told userId route items events calls := by
  cases rest with
  | nil => exact Or.inl told
  | cons item rest => exact told

/-- The table only grows. -/
theorem Moves.grows (moves : Moves store userId phase moved) : store.items ⊆ moved.store.items := by
  cases moves with
  | putItem call | unackedItem call => exact List.subset_append_left _ _
  | _ => exact fun _ member => member

/-- The end of a call does what its phases tell. -/
theorem Moves.told (moves : Moves store userId phase moved)
    (told : phase.Told userId route store.items events calls) :
    moved.phase.Told userId route moved.store.items (events ++ moved.events)
      (calls + moved.calls) := by
  have grows := moves.grows
  cases moves with
  | readTranscript transcriptId tier =>
      obtain ⟨named, rfl, rfl⟩ := told
      cases store.transcripts.lookup (transcriptKey userId transcriptId) with
      | some transcript => exact ⟨named, rfl, rfl⟩
      | none => exact ⟨transcriptId, tier, named, rfl, .missing⟩
  | created transcriptId tier transcript createdAt message =>
      obtain ⟨named, rfl, rfl⟩ := told
      exact ⟨⟨named, rfl⟩, rfl, rfl⟩
  | uncreated transcriptId tier transcript createdAt =>
      obtain ⟨named, rfl, rfl⟩ := told
      exact ⟨transcriptId, tier, named, rfl, .uncalled⟩
  | putObject call =>
      obtain ⟨named, rfl, rfl⟩ := told
      exact ⟨named, rfl, rfl⟩
  | putItem call =>
      obtain ⟨⟨named, rfl⟩, rfl, rfl⟩ := told
      refine ⟨_, _, named, rfl, .completed call rfl rfl rfl ?_⟩
      exact List.mem_append_right _ (List.mem_singleton_self _)
  | recorded event answer =>
      obtain ⟨transcriptId, tier, named, rfl, due⟩ := told
      exact Or.inr ⟨transcriptId, tier, named, Or.inl ⟨event, rfl, due⟩⟩
  | unackedEvent event answer =>
      obtain ⟨transcriptId, tier, named, rfl, due⟩ := told
      exact Or.inr ⟨transcriptId, tier, named, Or.inr ⟨rfl, Or.inr ⟨event, answer, rfl, due⟩⟩⟩
  | unackedObject call =>
      rw [List.append_nil]
      have fails : (Phase.puttingObject call).Fails := trivial
      exact told_of_fails fails told
  | unackedItem call =>
      rw [List.append_nil]
      have fails : (Phase.puttingItem call).Fails := trivial
      exact (told_of_fails fails told).mono grows
  | @gotItem transcriptId found shows =>
      rw [List.append_nil]
      cases found with
      | none => exact Or.inl told
      | some item => exact told
  | queried shows =>
      rw [List.append_nil]
      exact told_afterItems told
  | gotObject read =>
      rw [List.append_nil]
      exact Or.inl told
  | hydrated rest records nextCursor read =>
      rw [List.append_nil]
      exact told_afterItems told
  | failed fails =>
      rw [List.append_nil]
      exact told_of_fails fails told

/-- Every request has done what its phase tells. -/
def World.Tells (world : World ι) : Prop :=
  ∀ id request, world.requests id = some request →
    request.phase.Told request.userId request.route world.store.items request.events request.calls

theorem World.Tells.step (tells : world.Tells) (taken : step world action = some after) :
    after.Tells := by
  intro other later found
  rcases step_cases taken with ⟨key, text, rfl⟩ | ⟨id, userId, route, -, -, rfl⟩ |
    ⟨id, request, moved, held, moves, rfl⟩
  · exact tells other later found
  · rcases update_cases found with ⟨-, rfl⟩ | ⟨-, before⟩
    · cases route with
      | summarize transcriptId tier => exact ⟨rfl, rfl, rfl⟩
      | get transcriptId => exact ⟨trivial, rfl, rfl⟩
      | list limit cursor => exact ⟨trivial, rfl, rfl⟩
    · exact tells other later before
  · rcases update_cases found with ⟨-, rfl⟩ | ⟨-, before⟩
    · exact moves.told (tells id request held)
    · exact (tells other later before).mono moves.grows

end Tells

end Panakoes.Summarization.SummaryRoutes
