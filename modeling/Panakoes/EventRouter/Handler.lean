import Mathlib.Data.List.TakeDrop
import Mathlib.Data.List.TakeWhile
import Panakoes.Foundation.ConditionalWrite
import Panakoes.Foundation.PercentCoding
import Panakoes.Foundation.PyJson
import Panakoes.Foundation.Run
import Panakoes.Foundation.Table

/-! # The event router

An object-created event is delivered until an attempt succeeds. An attempt handles the keys
of the event in order: it moves the record from pending to uploaded, under the condition
that it is pending, and then publishes the upload. A record that has been moved is skipped
by later attempts, so its upload is published by the attempt that has moved it or never.
-/

/-! ## Object keys

The keys of uploaded objects, `audio/{user_id}/{ingestion_id}/{filename}`, as the event router
reads them.
-/

namespace Panakoes.EventRouter

/-- `ParsedKey`. -/
structure ParsedKey where
  userId : String
  ingestionId : String
  filename : String
  deriving DecidableEq

/-- The text before the first `/` and the text behind it. -/
def cut (text : List Char) : Option (List Char × List Char) :=
  match text.span (· ≠ '/') with
  | (_, []) => none
  | (head, _ :: tail) => some (head, tail)

/-- `parse_object_key`. -/
def parseObjectKey (rawKey : String) : Option ParsedKey := do
  let decoded := PercentCoding.unquotePlus rawKey.toList
  let rest ← decoded.dropPrefix? "audio/".toList
  let (userId, rest) ← cut rest
  let (ingestionId, filename) ← cut rest
  if userId = [] ∨ ingestionId = [] ∨ filename = [] then none
  else some ⟨String.ofList userId, String.ofList ingestionId, String.ofList filename⟩

example : parseObjectKey "audio/u/i/a+b/c.wav" = some ⟨"u", "i", "a b/c.wav"⟩ := by decide +kernel

/-- The two sides of the first slash. -/
theorem cut_eq_some_iff {text head tail : List Char} :
    cut text = some (head, tail) ↔ text = head ++ '/' :: tail ∧ '/' ∉ head := by
  unfold cut
  rw [List.span_eq_takeWhile_dropWhile]
  constructor
  · intro found
    split at found
    · cases found
    · rename_i first separator rest sides
      cases found
      obtain ⟨taken, dropped⟩ := Prod.mk.inj sides
      have slash : separator = '/' := by
        have stops := List.head?_dropWhile_not (fun char => decide (char ≠ '/')) text
        rw [dropped] at stops
        simpa using stops
      refine ⟨?_, fun member => ?_⟩
      · rw [← slash, ← dropped, ← taken, List.takeWhile_append_dropWhile]
      · rw [← taken] at member
        have kept := List.mem_takeWhile_imp member
        simp at kept
  · rintro ⟨rfl, without⟩
    have kept : ∀ char ∈ head, decide (char ≠ '/') = true :=
      fun char member => decide_eq_true fun slash => without (slash ▸ member)
    rw [List.takeWhile_append_of_pos kept, List.dropWhile_append_of_pos kept]
    simp

/-- What a key that is read decodes to. -/
theorem parseObjectKey_eq_some_iff {rawKey : String} {parsed : ParsedKey} :
    parseObjectKey rawKey = some parsed ↔
      PercentCoding.unquotePlus rawKey.toList =
          "audio/".toList ++ (parsed.userId.toList ++ '/' :: (parsed.ingestionId.toList ++
            '/' :: parsed.filename.toList)) ∧
        '/' ∉ parsed.userId.toList ∧ '/' ∉ parsed.ingestionId.toList ∧
        parsed.userId ≠ "" ∧ parsed.ingestionId ≠ "" ∧ parsed.filename ≠ "" := by
  unfold parseObjectKey
  simp only [Option.bind_eq_bind, Option.bind_eq_some_iff, Prod.exists, cut_eq_some_iff]
  constructor
  · rintro ⟨rest, prefixed, userId, tail, ⟨rfl, user⟩, ingestionId, filename, ⟨rfl, ingestion⟩,
      read⟩
    obtain ⟨first, decoded, same⟩ := List.dropPrefix?_eq_some_iff.mp prefixed
    split at read
    · cases read
    · rename_i nonempty
      cases read
      simp only [String.toList_ofList]
      simp only [not_or] at nonempty
      exact ⟨by rw [decoded, eq_of_beq same], user, ingestion,
        mt String.ofList_eq_empty_iff.mp nonempty.1,
        mt String.ofList_eq_empty_iff.mp nonempty.2.1,
        mt String.ofList_eq_empty_iff.mp nonempty.2.2⟩
  · rintro ⟨decoded, user, ingestion, userNonempty, ingestionNonempty, filenameNonempty⟩
    refine ⟨_, List.dropPrefix?_eq_some_iff.mpr ⟨_, decoded, beq_self_eq_true _⟩, _, _, ⟨rfl, user⟩,
      _, _, ⟨rfl, ingestion⟩, ?_⟩
    rw [if_neg]
    · simp only [String.ofList_toList]
    · simp only [String.toList_eq_nil_iff, not_or]
      exact ⟨userNonempty, ingestionNonempty, filenameNonempty⟩

end Panakoes.EventRouter

namespace Panakoes.EventRouter

open Transition

/-! ## The event -/

/-- `(entries.get(outer) or {}).get(inner)`. -/
def member (entries : List (String × PyJson)) (outer inner : String) : Except PyError PyJson :=
  match (PyJson.get entries outer).orElse (.dict []) with
  | .dict found => .ok (PyJson.get found inner)
  | _ => .error .attributeError

/-- The key, when the bucket and the key are strings. -/
def keyOf : PyJson → PyJson → Option String
  | .str _, .str key => some key
  | _, _ => none

/-- The key of one record of a direct notification. -/
def recordKey (record : PyJson) : Except PyError (Option String) :=
  match record with
  | .dict entries =>
      match PyJson.get entries "s3" with
      | .dict s3 => do
          let bucket ← member s3 "bucket" "name"
          let key ← member s3 "object" "key"
          return keyOf bucket key
      | _ => .ok none
  | _ => .ok none

/-- `_extract_s3_records`, of which the keys are used. -/
def extractS3Records (event : List (String × PyJson)) : Except PyError (List String) :=
  match PyJson.get event "source", PyJson.get event "detail" with
  | .str "aws.s3", .dict detail => do
      let bucket ← member detail "bucket" "name"
      let key ← member detail "object" "key"
      return (keyOf bucket key).toList
  | _, _ =>
      match PyJson.get event "Records" with
      | .list records => do
          let keys ← records.mapM recordKey
          return keys.reduceOption
      | _ => .ok []

/-- The key of an event of EventBridge. -/
theorem extractS3Records_detail {event detail : List (String × PyJson)}
    (source : PyJson.get event "source" = .str "aws.s3")
    (detailed : PyJson.get event "detail" = .dict detail) :
    extractS3Records event = (do
      let bucket ← member detail "bucket" "name"
      let key ← member detail "object" "key"
      return (keyOf bucket key).toList) := by
  unfold extractS3Records
  rw [source, detailed]
  rfl

/-! ## One key -/

/-- The `Settings` that the handler uses. -/
structure Settings where
  eventbridgeBusName : String
  eventSource : String := "panakoes.ingest"
  eventDetailType : String := "AudioUploaded"

/-- `_user_pk` and `_ingestion_sk`: the key of the item. -/
def ParsedKey.itemKey (parsed : ParsedKey) : String × String :=
  (s!"USER#{parsed.userId}", s!"INGESTION#{parsed.ingestionId}")

/-- An item of the ingestion table, with the attributes the router uses. -/
structure Row where
  status : String
  updatedAt : String

/-- An entry for the bus. Its detail is sent as JSON. -/
structure Entry where
  source : String
  detailType : String
  detail : ParsedKey
  eventBusName : String

/-- The entry of an upload. -/
def audioUploaded (settings : Settings) (parsed : ParsedKey) : Entry :=
  ⟨settings.eventSource, settings.eventDetailType, parsed, settings.eventbridgeBusName⟩

/-- How a call of `put_events` ends: it is answered, with the entry accepted or counted as
failed, or it raises, whether the entry has been accepted or not. -/
inductive PutEvents where
  | answered (accepted : Bool)
  | raised (accepted : Bool)
  deriving DecidableEq

/-- The bus has accepted the entry. -/
def PutEvents.accepts : PutEvents → Bool
  | .answered accepted | .raised accepted => accepted

/-- How the calls for one key end. -/
structure Faults where
  update : ConditionalWrite.Fault
  now : String
  recordRead : Bool
  metricRaised : Bool
  publish : PutEvents

/-- The table, the entries the bus has accepted, the keys of the items that have been moved, and
the unmatched uploads with their reasons. -/
structure World where
  table : Table (String × String) Row
  bus : List Entry
  moved : List (String × String)
  unknown : List (String × String)

/-- How the handling of a key ends. -/
inductive Handled where
  | published
  | skipped
  | raised
  deriving DecidableEq

/-- The table with the record moved to uploaded, or `none` when the condition fails. -/
def moveToUploaded (table : Table (String × String) Row) (key : String × String) (now : String) :
    Option (Table (String × String) Row) :=
  match table.lookup key with
  | some row => if row.status = "pending" then some (table.insert key ⟨"uploaded", now⟩) else none
  | none => none

/-- `_emit_unknown`. A metric that fails with a `ClientError` is logged. -/
def emitUnknown (world : World) (rawKey reason : String) (raised : Bool) : World × Handled :=
  ({ world with unknown := world.unknown ++ [(rawKey, reason)] },
    if raised then .raised else .skipped)

/-- `_publish_audio_uploaded`. The answer is not looked at. -/
def publishAudioUploaded (settings : Settings) (world : World) (parsed : ParsedKey)
    (publish : PutEvents) : World × Handled :=
  let bus := if publish.accepts then world.bus ++ [audioUploaded settings parsed] else world.bus
  match publish with
  | .answered _ => ({ world with bus }, .published)
  | .raised _ => ({ world with bus }, .raised)

/-- `_mark_uploaded`, and `_publish_audio_uploaded` if it returns `True`. -/
def handleParsed (settings : Settings) (world : World) (parsed : ParsedKey) (faults : Faults) :
    World × Handled :=
  let outcome := ConditionalWrite.send faults.update world.table
    (moveToUploaded world.table parsed.itemKey faults.now)
  let moved := if outcome.applied then world.moved ++ [parsed.itemKey] else world.moved
  let marked : World := { world with table := outcome.table, moved := moved }
  match outcome.reply with
  | .ok => publishAudioUploaded settings marked parsed faults.publish
  | .failed => (marked, .raised)
  | .conditionalCheckFailed =>
      if faults.recordRead = false then (marked, .raised)
      else if (marked.table.lookup parsed.itemKey).isNone then
        emitUnknown marked s!"audio/{parsed.userId}/{parsed.ingestionId}/{parsed.filename}"
          "record_missing" faults.metricRaised
      else (marked, .skipped)

/-- `_handle_one`. -/
def handleOne (settings : Settings) (world : World) (rawKey : String) (faults : Faults) :
    World × Handled :=
  match parseObjectKey rawKey with
  | none => emitUnknown world rawKey "unparseable_key" faults.metricRaised
  | some parsed => handleParsed settings world parsed faults

/-! ## The deliveries of an event -/

/-- The world, the keys that are left in the current attempt, if one is under way or has
succeeded, and how many uploads it has published. -/
structure State where
  world : World
  rest : Option (List String)
  published : ℕ

/-- An attempt begins, or handles its next key. -/
inductive Action where
  | deliver
  | handle (faults : Faults)

/-- Any table, before the first attempt. -/
def State.start (table : Table (String × String) Row) : State := ⟨⟨table, [], [], []⟩, none, 0⟩

/-- One step of `process`, which is called again after it has raised. -/
def step (settings : Settings) (event : List (String × PyJson)) (state : State) :
    Action → Option State
  | .deliver =>
      if state.rest.isSome then none
      else
        match extractS3Records event with
        | .ok keys => some ⟨state.world, some keys, 0⟩
        | .error _ => some state
  | .handle faults =>
      match state.rest with
      | some (key :: keys) =>
          let (world, handled) := handleOne settings state.world key faults
          match handled with
          | .published => some ⟨world, some keys, state.published + 1⟩
          | .skipped => some ⟨world, some keys, state.published⟩
          | .raised => some ⟨world, none, state.published⟩
      | _ => none

/-- The attempt has succeeded. -/
def State.Succeeded (state : State) : Prop := state.rest = some []

/-- The bus has accepted the upload of the item. -/
def World.Published (world : World) (key : String × String) : Prop :=
  ∃ entry ∈ world.bus, entry.detail.itemKey = key

/-- The upload of every record that has been moved is published. -/
def World.AllPublished (world : World) : Prop := ∀ key ∈ world.moved, world.Published key

/-- The record of a key is pending. -/
def World.Pending (world : World) (key : String × String) : Prop :=
  ∃ row ∈ world.table.lookup key, row.status = "pending"

instance (world : World) (key : String × String) : Decidable (world.Pending key) :=
  inferInstanceAs (Decidable (∃ row ∈ world.table.lookup key, row.status = "pending"))

/-- If the next update moves a record, it is answered, and the bus accepts the upload. -/
def Carries (state : State) : Action → Prop
  | .deliver => True
  | .handle faults =>
      ∀ keys ∈ state.rest, ∀ key ∈ keys.head?, ∀ parsed ∈ parseObjectKey key,
        state.world.Pending parsed.itemKey → faults.update ≠ .lost →
          faults.update = .none ∧ faults.publish.accepts = true

instance (state : State) : ∀ action, Decidable (Carries state action)
  | .deliver => .isTrue trivial
  | .handle faults => inferInstanceAs (Decidable (∀ keys ∈ state.rest, ∀ key ∈ keys.head?,
      ∀ parsed ∈ parseObjectKey key, state.world.Pending parsed.itemKey → faults.update ≠ .lost →
        faults.update = .none ∧ faults.publish.accepts = true))

/-! ## What the handling of a key can do -/

/-- The bus after a record has been moved. -/
def World.busAfter (settings : Settings) (world : World) (parsed : ParsedKey) (faults : Faults) :
    List Entry :=
  if faults.update = .none ∧ faults.publish.accepts = true then
    world.bus ++ [audioUploaded settings parsed]
  else world.bus

/-- What the handling of a key does: it moves no record, or it moves the one of the key, and
publishes it then if the calls end well. -/
inductive Effect (settings : Settings) (world : World) (rawKey : String) (faults : Faults) :
    World → Prop
  | idle (unknown : List (String × String))
      (calm : ∀ parsed ∈ parseObjectKey rawKey, world.Pending parsed.itemKey →
        faults.update = .lost) :
      Effect settings world rawKey faults { world with unknown := unknown }
  | moved (parsed : ParsedKey) (reads : parseObjectKey rawKey = some parsed)
      (pending : world.Pending parsed.itemKey) (arrives : faults.update ≠ .lost)
      (unknown : List (String × String)) :
      Effect settings world rawKey faults
        ⟨world.table.insert parsed.itemKey ⟨"uploaded", faults.now⟩,
          world.busAfter settings parsed faults, world.moved ++ [parsed.itemKey], unknown⟩

variable {settings : Settings} {event : List (String × PyJson)} {world after : World}
  {rawKey : String} {faults : Faults} {handled : Handled} {parsed : ParsedKey}

/-- A record that is pending is moved unless the request gets lost. -/
theorem moveToUploaded_of_pending {key : String × String} {now : String}
    (pending : world.Pending key) :
    moveToUploaded world.table key now = some (world.table.insert key ⟨"uploaded", now⟩) := by
  obtain ⟨row, held, status⟩ := pending
  unfold moveToUploaded
  rw [Option.mem_def.mp held]
  exact if_pos status

theorem moveToUploaded_of_not_pending {key : String × String} {now : String}
    (settled : ¬ world.Pending key) : moveToUploaded world.table key now = none := by
  unfold moveToUploaded
  cases held : world.table.lookup key with
  | none => rfl
  | some row => exact if_neg fun status => settled ⟨row, held, status⟩

/-- The record has been moved, and nothing is published. -/
theorem effect_unpublished (reads : parseObjectKey rawKey = some parsed)
    (pending : world.Pending parsed.itemKey) (arrives : faults.update ≠ .lost)
    (unanswered : faults.update ≠ .none) (unknown : List (String × String)) :
    Effect settings world rawKey faults
      ⟨world.table.insert parsed.itemKey ⟨"uploaded", faults.now⟩, world.bus,
        world.moved ++ [parsed.itemKey], unknown⟩ := by
  have effect : Effect settings world rawKey faults _ :=
    .moved parsed reads pending arrives unknown
  unfold World.busAfter at effect
  rw [if_neg fun ends => unanswered ends.1] at effect
  exact effect

/-- The update moves the record. -/
theorem handleParsed_pending (reads : parseObjectKey rawKey = some parsed)
    (pending : world.Pending parsed.itemKey)
    (done : handleParsed settings world parsed faults = (after, handled)) :
    Effect settings world rawKey faults after := by
  unfold handleParsed at done
  rw [moveToUploaded_of_pending pending] at done
  cases fault : faults.update with
  | lost =>
      rw [fault] at done
      cases done
      exact .idle _ fun _ _ _ => fault
  | unacked =>
      rw [fault] at done
      cases done
      exact effect_unpublished reads pending (by simp [fault]) (by simp [fault]) _
  | retried =>
      rw [fault] at done
      have arrives : faults.update ≠ .lost := by simp [fault]
      have unanswered : faults.update ≠ .none := by simp [fault]
      simp only [ConditionalWrite.send] at done
      split at done
      · cases done
        exact effect_unpublished reads pending arrives unanswered _
      · split at done
        · cases done
          exact effect_unpublished reads pending arrives unanswered _
        · cases done
          exact effect_unpublished reads pending arrives unanswered _
  | none =>
      rw [fault] at done
      have effect : Effect settings world rawKey faults _ :=
        .moved parsed reads pending (by simp [fault]) world.unknown
      have published : world.busAfter settings parsed faults =
          if faults.publish.accepts then world.bus ++ [audioUploaded settings parsed]
          else world.bus := by
        unfold World.busAfter
        simp only [fault, true_and]
      rw [published] at effect
      simp only [ConditionalWrite.send, publishAudioUploaded] at done
      split at done
      · cases done
        exact effect
      · cases done
        exact effect

/-- The update finds no pending record. -/
theorem handleParsed_settled (reads : parseObjectKey rawKey = some parsed)
    (settled : ¬ world.Pending parsed.itemKey)
    (done : handleParsed settings world parsed faults = (after, handled)) :
    Effect settings world rawKey faults after := by
  have calm : ∀ other ∈ parseObjectKey rawKey, world.Pending other.itemKey →
      faults.update = .lost := by
    intro other same pending
    cases reads.symm.trans same
    exact absurd pending settled
  unfold handleParsed at done
  rw [moveToUploaded_of_not_pending settled] at done
  have unmoved : (ConditionalWrite.send faults.update world.table none).table = world.table ∧
      (ConditionalWrite.send faults.update world.table none).applied = false := by
    cases faults.update <;> exact ⟨rfl, rfl⟩
  simp only [unmoved.1, unmoved.2] at done
  split at done
  · rename_i ok
    have applied := ConditionalWrite.applied_of_ok ok
    rw [unmoved.2] at applied
    cases applied
  · cases done
    exact .idle _ calm
  · split at done
    · cases done
      exact .idle _ calm
    · split at done
      · cases done
        exact .idle _ calm
      · cases done
        exact .idle _ calm

/-- The handling of a key does one of the two things. -/
theorem handleOne_effect (done : handleOne settings world rawKey faults = (after, handled)) :
    Effect settings world rawKey faults after := by
  unfold handleOne at done
  split at done
  · rename_i unparseable
    cases done
    refine .idle _ fun parsed same => ?_
    cases unparseable.symm.trans same
  · rename_i parsed reads
    by_cases pending : world.Pending parsed.itemKey
    · exact handleParsed_pending reads pending done
    · exact handleParsed_settled reads pending done

/-! ## Deliveries until one succeeds -/

variable {before next : State} {key : String × String}

/-- The handling of the next key. -/
theorem step_handle (taken : step settings event before (.handle faults) = some next) :
    ∃ rawKey keys, before.rest = some (rawKey :: keys) ∧
      Effect settings before.world rawKey faults next.world := by
  simp only [step] at taken
  split at taken
  · rename_i rawKey keys rest
    refine ⟨rawKey, keys, rest, ?_⟩
    cases done : handleOne settings before.world rawKey faults with
    | mk world handled =>
        rw [done] at taken
        have effect := handleOne_effect done
        cases handled <;> cases taken <;> exact effect
  · cases taken

/-- What a step does to the world. -/
theorem step_world {action : Action} (taken : step settings event before action = some next) :
    next.world = before.world ∨ ∃ faults rawKey keys, action = .handle faults ∧
      before.rest = some (rawKey :: keys) ∧
        Effect settings before.world rawKey faults next.world := by
  cases action with
  | deliver =>
      simp only [step] at taken
      split at taken
      · cases taken
      · split at taken
        · cases taken
          exact Or.inl rfl
        · cases taken
          exact Or.inl rfl
  | handle faults =>
      obtain ⟨rawKey, keys, rest, effect⟩ := step_handle taken
      exact Or.inr ⟨faults, rawKey, keys, rfl, rest, effect⟩

/-- Records that have been moved are not pending, and only their uploads are published. -/
structure Tracked (world : World) : Prop where
  settled : ∀ key ∈ world.moved, ¬ world.Pending key
  sourced : ∀ entry ∈ world.bus, entry.detail.itemKey ∈ world.moved

/-- A record is pending after a move only if it was and is another one. -/
theorem pending_insert {bus : List Entry} {moved : List (String × String)}
    {unknown : List (String × String)} {other : String × String} {now : String}
    (pending : World.Pending ⟨world.table.insert other ⟨"uploaded", now⟩, bus, moved, unknown⟩
      key) : key ≠ other ∧ world.Pending key := by
  obtain ⟨row, held, status⟩ := pending
  rcases Table.lookup_insert_cases held with ⟨-, rfl⟩ | ⟨different, held⟩
  · have uploaded : "uploaded" ≠ "pending" := by decide
    exact absurd status uploaded
  · exact ⟨different, row, held, status⟩

/-- An entry on the bus after a move was there, or is the upload of the record. -/
theorem mem_busAfter {entry : Entry} (member : entry ∈ world.busAfter settings parsed faults) :
    entry ∈ world.bus ∨ entry = audioUploaded settings parsed := by
  unfold World.busAfter at member
  split at member
  · rcases List.mem_append.mp member with there | here
    · exact Or.inl there
    · exact Or.inr (List.mem_singleton.mp here)
  · exact Or.inl member

theorem subset_busAfter : world.bus ⊆ world.busAfter settings parsed faults := by
  unfold World.busAfter
  split
  · exact List.subset_append_left _ _
  · exact List.Subset.refl _

theorem Effect.tracked (effect : Effect settings world rawKey faults after)
    (tracked : Tracked world) : Tracked after := by
  cases effect with
  | idle unknown calm => exact ⟨tracked.settled, tracked.sourced⟩
  | moved parsed reads pending arrives unknown =>
      refine ⟨fun key member pends => ?_, fun entry member => ?_⟩
      · obtain ⟨different, pends⟩ := pending_insert pends
        rcases List.mem_append.mp member with earlier | new
        · exact tracked.settled key earlier pends
        · exact different (List.mem_singleton.mp new)
      · rcases mem_busAfter member with there | rfl
        · exact List.mem_append_left _ (tracked.sourced entry there)
        · exact List.mem_append_right _ (List.mem_singleton_self _)

/-- A record that has been moved without its upload, for good. -/
structure Lost (world : World) (key : String × String) : Prop where
  moved : key ∈ world.moved
  settled : ¬ world.Pending key
  unpublished : ¬ world.Published key

theorem Effect.lost (effect : Effect settings world rawKey faults after)
    (lost : Lost world key) : Lost after key := by
  cases effect with
  | idle unknown calm => exact ⟨lost.moved, lost.settled, lost.unpublished⟩
  | moved parsed reads pending arrives unknown =>
      have different : parsed.itemKey ≠ key := by
        rintro rfl
        exact lost.settled pending
      refine ⟨List.mem_append_left _ lost.moved, fun pends => ?_, ?_⟩
      · exact lost.settled (pending_insert pends).2
      · rintro ⟨entry, member, same⟩
        rcases mem_busAfter member with there | rfl
        · exact lost.unpublished ⟨entry, there, same⟩
        · exact different same

/-- A record that is lost stays lost. -/
theorem execute_lost {actions : List Action} {final : State} (lost : Lost before.world key)
    (run : execute (step settings event) before actions = some final) : Lost final.world key := by
  refine @execute_invariant_of_step _ _ _ before (fun state => Lost state.world key) lost ?_ _ _ run
  intro before action after lost taken
  rcases step_world taken with same | ⟨faults, rawKey, keys, -, -, effect⟩
  · rw [same]
    exact lost
  · exact effect.lost lost

/-- A step that does not carry its upload loses it. -/
theorem lost_of_not_carries {action : Action} (tracked : Tracked before.world)
    (taken : step settings event before action = some next) (dropped : ¬ Carries before action) :
    ∃ key, Lost next.world key := by
  cases action with
  | deliver => exact absurd trivial dropped
  | handle faults =>
      obtain ⟨rawKey, keys, rest, effect⟩ := step_handle taken
      have tracked' := effect.tracked tracked
      generalize next.world = after at effect tracked'
      cases effect with
      | idle unknown calm =>
          refine absurd (fun found same key head parsed reads pending arrives => ?_) dropped
          cases rest.symm.trans same
          cases head
          exact absurd (calm parsed reads pending) arrives
      | moved parsed reads pending arrives unknown =>
          have faulty : ¬ (faults.update = .none ∧ faults.publish.accepts = true) := by
            intro ends
            refine dropped fun found same key head other otherReads _ _ => ends
          have there : parsed.itemKey ∈ before.world.moved ++ [parsed.itemKey] :=
            List.mem_append_right _ (List.mem_singleton_self _)
          refine ⟨parsed.itemKey, there, tracked'.settled _ there, ?_⟩
          rintro ⟨entry, member, same⟩
          have unchanged : before.world.busAfter settings parsed faults = before.world.bus :=
            if_neg faulty
          have earlier := tracked.sourced entry (unchanged ▸ member)
          rw [same] at earlier
          exact tracked.settled _ earlier pending

/-- A step that carries its upload keeps all uploads published. -/
theorem allPublished_of_carries {action : Action} (all : before.world.AllPublished)
    (taken : step settings event before action = some next) (carries : Carries before action) :
    next.world.AllPublished := by
  rcases step_world taken with same | ⟨faults, rawKey, keys, rfl, rest, effect⟩
  · rw [same]
    exact all
  · generalize next.world = after at effect
    cases effect with
    | idle unknown calm => exact all
    | moved parsed reads pending arrives unknown =>
        have ends := carries _ rest rawKey rfl parsed reads pending arrives
        intro key member
        rcases List.mem_append.mp member with earlier | new
        · obtain ⟨entry, there, same⟩ := all key earlier
          exact ⟨entry, subset_busAfter there, same⟩
        · refine ⟨audioUploaded settings parsed, ?_, (List.mem_singleton.mp new).symm⟩
          show _ ∈ World.busAfter _ _ _ _
          unfold World.busAfter
          rw [if_pos ends]
          exact List.mem_append_right _ (List.mem_singleton_self _)

/-- When all uploads are published in the end, every step has carried its own. -/
theorem meets_of_allPublished {past actions : List Action} {final : State}
    (tracked : Tracked before.world)
    (run : execute (step settings event) before actions = some final)
    (all : final.world.AllPublished) :
    Meets (step settings event) (fun _ => Carries) past before actions := by
  induction actions generalizing past before with
  | nil => trivial
  | cons action rest ih =>
      obtain ⟨next, taken, run⟩ := Option.bind_eq_some_iff.mp run
      have carries : Carries before action := by
        by_contra dropped
        obtain ⟨key, lost⟩ := lost_of_not_carries tracked taken dropped
        have still := execute_lost lost run
        exact still.unpublished (all key still.moved)
      have later : Tracked next.world := by
        rcases step_world taken with same | ⟨faults, rawKey, keys, -, -, effect⟩
        · rw [same]
          exact tracked
        · exact effect.tracked tracked
      exact Meets.cons carries taken (ih later run)

/-- **Every upload is published.** For every event, however its attempts end and however
often it is delivered, the upload of every record that the router has moved is accepted by
the bus if and only if every step carries its upload. -/
theorem router_publishes_iff (settings : Settings) (event : List (String × PyJson))
    (table : Table (String × String) Row) {actions : List Action} {final : State}
    (run : execute (step settings event) (State.start table) actions = some final) :
    final.world.AllPublished ↔
      Meets (step settings event) (fun _ => Carries) [] (State.start table) actions := by
  constructor
  · intro all
    refine meets_of_allPublished ⟨fun key member => ?_, fun entry member => ?_⟩ run all
    · cases member
    · cases member
  · intro carries
    refine @execute_invariant _ _ _ _ (State.start table) (fun state => state.world.AllPublished)
      (fun key member => ?_) ?_ _ _ carries run
    · cases member
    · exact fun _ before action after all carries taken =>
        allPublished_of_carries all taken carries

/-! ## One upload -/

/-- A notification of one upload. -/
def sampleEvent : List (String × PyJson) :=
  [("Records", .list [.dict [("s3", .dict [("bucket", .dict [("name", .str "audio-uploads")]),
    ("object", .dict [("key", .str "audio/u/i/a.wav")])])]])]

/-- Its record is pending. -/
def sampleTable : Table (String × String) Row :=
  AList.insert ("USER#u", "INGESTION#i") ⟨"pending", "t"⟩ ∅

def sampleSettings : Settings where
  eventbridgeBusName := "bus"

/-- Every call ends well, and `put_events` as given. -/
def withPublish (publish : PutEvents) : Action := .handle ⟨.none, "t", true, false, publish⟩

/-- The theorem on the event, delivered once. -/
theorem router_publishes_once :
    ∃ final, execute (step sampleSettings sampleEvent) (State.start sampleTable)
        [.deliver, withPublish (.answered true)] = some final ∧
      final.world.moved = [("USER#u", "INGESTION#i")] ∧ final.world.AllPublished := by
  have reached : (execute (step sampleSettings sampleEvent) (State.start sampleTable)
      [.deliver, withPublish (.answered true)]).map (fun state => state.world.moved) =
        some [("USER#u", "INGESTION#i")] := by
    decide +kernel
  obtain ⟨final, run, moved⟩ := Option.map_eq_some_iff.mp reached
  exact ⟨final, run, moved, (router_publishes_iff _ _ _ run).mpr (by decide +kernel)⟩

/-- `put_events` raises in the first attempt, and the second attempt succeeds. -/
def redeliveredRun : List Action :=
  [.deliver, withPublish (.raised false), .deliver, withPublish (.answered true)]

/-- The upload is never published. -/
theorem upload_lost :
    ¬ ∀ (settings : Settings) (event : List (String × PyJson))
      (table : Table (String × String) Row) (actions : List Action) (final : State),
      execute (step settings event) (State.start table) actions = some final →
        final.Succeeded → final.world.AllPublished := by
  intro always
  have reached : (execute (step sampleSettings sampleEvent) (State.start sampleTable)
      redeliveredRun).map (fun state =>
        (state.rest, state.world.moved, state.world.bus.length)) =
          some (some [], [("USER#u", "INGESTION#i")], 0) := by
    decide +kernel
  obtain ⟨final, run, ended⟩ := Option.map_eq_some_iff.mp reached
  obtain ⟨succeeded, ended⟩ := Prod.mk.inj ended
  obtain ⟨moved, empty⟩ := Prod.mk.inj ended
  have all := always _ _ _ _ final run succeeded
  obtain ⟨entry, member, -⟩ := all ("USER#u", "INGESTION#i")
    (by rw [moved]; exact List.mem_singleton_self _)
  rw [List.eq_nil_of_length_eq_zero empty] at member
  cases member

end Panakoes.EventRouter
