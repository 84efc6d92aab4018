import Mathlib.Algebra.BigOperators.Group.List.Basic
import Mathlib.Algebra.Order.Ring.Nat
import Panakoes.EventRouter.Handler
import Panakoes.Foundation.BatchLoop

/-! # The records of an event

The router reads the keys of all records of an event before it handles the first one. A bucket or an
object that is neither an object nor falsy raises, and then no record of the event is handled.
-/

namespace Panakoes.EventRouter

open BatchLoop

/-- The calls of AWS for a key succeed. -/
def answered (now : String) : Faults := ⟨.none, now, true, false, .answered true⟩

/-- One round of `process`. The state has the number of keys that have been handled, and `now` is
what the clock shows for each of them. -/
def handleKey (settings : Settings) (now : ℕ → String) (state : World × ℕ) (rawKey : String) :
    Except PyError ((World × ℕ) × ℕ) :=
  match handleOne settings state.1 rawKey (answered (now state.2)) with
  | (world, .published) => .ok ((world, state.2 + 1), 1)
  | (world, .skipped) => .ok ((world, state.2 + 1), 0)
  | (_, .raised) => .error .clientError

/-- `EventRouter.process`. -/
def process (settings : Settings) (now : ℕ → String) (state : World × ℕ)
    (event : List (String × PyJson)) : Except PyError ((World × ℕ) × ℕ) := do
  let records ← extractS3Records event
  (rounds (handleKey settings now) state records).map fun result => (result.1, result.2.sum)

/-- The event of one record of a direct notification. -/
def notification (record : PyJson) : List (String × PyJson) := [("Records", .list [record])]

/-- The forms of an event: of EventBridge, or a notification with its records, or another one. -/
inductive EventForm where
  | eventBridge (detail : List (String × PyJson))
  | direct (records : List PyJson)
  | other

/-- The form of an event. -/
def formOf (event : List (String × PyJson)) : EventForm :=
  match PyJson.get event "source", PyJson.get event "detail" with
  | .str "aws.s3", .dict detail => .eventBridge detail
  | _, _ =>
      match PyJson.get event "Records" with
      | .list records => .direct records
      | _ => .other

/-- The records of an event, each in an event of its own. An event of EventBridge is one record. -/
def parts (event : List (String × PyJson)) : List (List (String × PyJson)) :=
  match formOf event with
  | .eventBridge _ => [event]
  | .direct records => records.map notification
  | .other => []

/-- The router, as a consumer of events. -/
def consumer (settings : Settings) (now : ℕ → String) :
    Consumer (World × ℕ) (List (String × PyJson)) ℕ PyError where
  process := process settings now
  parts := parts
  combine := List.sum

/-! ## The shape of a record -/

/-- `entries.get(name) or {}` is an object. -/
def IsObject (entries : List (String × PyJson)) (name : String) : Prop :=
  (PyJson.get entries name).truthy = true → ∃ found, PyJson.get entries name = .dict found

/-- A bucket and an object that can be looked into. -/
def ReadsUpload (entries : List (String × PyJson)) : Prop :=
  IsObject entries "bucket" ∧ IsObject entries "object"

/-- A record of a direct notification whose upload, if it has one, can be read. -/
def ReadsRecord (record : PyJson) : Prop :=
  ∀ entries s3, record = .dict entries → PyJson.get entries "s3" = .dict s3 → ReadsUpload s3

/-- An event whose records can be read. -/
def ReadsEvent (event : List (String × PyJson)) : Prop :=
  match formOf event with
  | .eventBridge detail => ReadsUpload detail
  | .direct records => ∀ record ∈ records, ReadsRecord record
  | .other => True

/-- What is read of an event, by its form. -/
theorem extractS3Records_form (event : List (String × PyJson)) :
    extractS3Records event =
      match formOf event with
      | .eventBridge detail => do
          let bucket ← member detail "bucket" "name"
          let key ← member detail "object" "key"
          return (keyOf bucket key).toList
      | .direct records => do
          let keys ← records.mapM recordKey
          return keys.reduceOption
      | .other => .ok [] := by
  unfold extractS3Records formOf
  generalize PyJson.get event "source" = source
  generalize PyJson.get event "detail" = detail
  split
  · rfl
  · cases PyJson.get event "Records" with
    | list | none | bool | int | float | str | dict => simp only

theorem isOk_member_iff (entries : List (String × PyJson)) (outer inner : String) :
    (member entries outer inner).isOk = true ↔ IsObject entries outer := by
  unfold member IsObject PyJson.orElse
  by_cases truthy : (PyJson.get entries outer).truthy = true
  · rw [if_pos truthy, forall_prop_of_true truthy]
    cases PyJson.get entries outer with
    | dict found => exact iff_of_true rfl ⟨found, rfl⟩
    | none | bool | int | float | str | list =>
        refine iff_of_false Bool.false_ne_true ?_
        rintro ⟨_, same⟩
        cases same
  · rw [if_neg truthy]
    exact iff_of_true rfl fun held => absurd held truthy

/-- The reading of a bucket and a key. -/
theorem isOk_readUpload_iff {α : Type} (entries : List (String × PyJson))
    (result : PyJson → PyJson → α) :
    (do
      let bucket ← member entries "bucket" "name"
      let key ← member entries "object" "key"
      return result bucket key : Except PyError α).isOk = true ↔ ReadsUpload entries := by
  refine (Except.isOk_bind_iff fun bucket _ =>
    Except.isOk_bind_iff fun key _ => iff_true_intro rfl).trans ?_
  rw [isOk_member_iff, isOk_member_iff, and_true]
  rfl

theorem isOk_recordKey_iff (record : PyJson) :
    (recordKey record).isOk = true ↔ ReadsRecord record := by
  unfold recordKey ReadsRecord
  split
  · rename_i entries
    split
    · rename_i s3 held
      rw [isOk_readUpload_iff]
      constructor
      · intro reads _ _ same held'
        cases same
        cases held.symm.trans held'
        exact reads
      · exact fun reads => reads entries s3 rfl held
    · rename_i other
      refine iff_of_true rfl fun _ s3 same held => ?_
      cases same
      exact absurd held (other s3)
  · rename_i other
    exact iff_of_true rfl fun entries _ same => absurd same (other entries)

/-! ## The records of an event, and each of them alone -/

variable {settings : Settings} {now : ℕ → String} {state : World × ℕ}
  {event : List (String × PyJson)}

/-- With the calls of AWS succeeding, the handling of a key does not raise. -/
theorem handleOne_answered (world : World) (rawKey moment : String) :
    (handleOne settings world rawKey (answered moment)).2 ≠ .raised := by
  unfold handleOne
  split
  · exact Handled.noConfusion
  · rename_i parsed _
    unfold handleParsed answered ConditionalWrite.send
    cases moveToUploaded world.table parsed.itemKey moment with
    | some updated => exact Handled.noConfusion
    | none =>
        dsimp only
        rw [if_neg Bool.true_eq_false.mp]
        split
        · exact Handled.noConfusion
        · exact Handled.noConfusion

theorem isOk_handleKey (state : World × ℕ) (rawKey : String) :
    (handleKey settings now state rawKey).isOk = true := by
  unfold handleKey
  split
  · rfl
  · rfl
  · rename_i raised
    exact absurd (congrArg Prod.snd raised) (handleOne_answered _ _ _)

theorem isOk_handleKeys (rawKeys : List String) :
    (rounds (handleKey settings now) state rawKeys).isOk = true :=
  (@isOk_rounds_iff _ _ _ _ _ _ _ (fun _ => True) (fun _ => True)
    (fun state rawKey _ => iff_true_intro (isOk_handleKey state rawKey))
    (fun _ _ _ _ _ _ => trivial) trivial).mpr fun _ _ => trivial

/-- What an event raises, its records raise. -/
theorem isOk_extractS3Records_iff : (extractS3Records event).isOk = true ↔ ReadsEvent event := by
  rw [extractS3Records_form]
  unfold ReadsEvent
  cases formOf event with
  | eventBridge detail => exact isOk_readUpload_iff _ _
  | direct records =>
      refine (Except.isOk_bind_iff fun _ _ => iff_true_intro rfl).trans ?_
      rw [and_true, Except.isOk_mapM_iff]
      exact forall₂_congr fun record _ => isOk_recordKey_iff record
  | other => exact iff_of_true rfl trivial

variable (settings now state event) in
theorem isOk_process_iff : (process settings now state event).isOk = true ↔ ReadsEvent event := by
  unfold process
  rw [← isOk_extractS3Records_iff]
  refine (Except.isOk_bind_iff fun rawKeys _ => ?_).trans (and_iff_left trivial)
  rw [Except.isOk_map]
  exact iff_true_intro (isOk_handleKeys rawKeys)

/-- The handling of a record alone. -/
theorem process_notification {record : PyJson} {key : Option String}
    (read : recordKey record = .ok key) :
    process settings now state (notification record) =
      (rounds (handleKey settings now) state key.toList).map
        fun result => (result.1, result.2.sum) := by
  have extracted : extractS3Records (notification record) = .ok key.toList := by
    have extract : extractS3Records (notification record) = (do
        let keys ← [record].mapM recordKey
        return keys.reduceOption) := rfl
    rw [extract, List.mapM_cons, read]
    cases key <;> rfl
  unfold process
  rw [extracted]
  rfl

/-- The records of a notification are handled as they are alone. -/
theorem rounds_notifications {records : List PyJson} {keys : List (Option String)}
    {after : World × ℕ} {outputs : List ℕ} (read : records.mapM recordKey = .ok keys)
    (handled : rounds (handleKey settings now) state keys.reduceOption = .ok (after, outputs)) :
    ∃ published, rounds (process settings now) state (records.map notification) =
      .ok (after, published) ∧ published.sum = outputs.sum := by
  induction records generalizing state keys outputs with
  | nil =>
      cases read
      cases handled
      exact ⟨[], rfl, rfl⟩
  | cons record records ih =>
      rw [List.mapM_cons] at read
      obtain ⟨key, first, read⟩ := Except.bind_eq_ok.mp read
      obtain ⟨rest, later, same⟩ := Except.bind_eq_ok.mp read
      cases same
      cases key with
      | none =>
          obtain ⟨published, alone, total⟩ := ih later handled
          refine ⟨0 :: published, ?_, ?_⟩
          · refine rounds_cons_eq_ok.mpr ⟨state, 0, published, ?_, alone, rfl⟩
            rw [process_notification first]
            rfl
          · rw [List.sum_cons, Nat.zero_add, total]
      | some key =>
          obtain ⟨next, output, others, one, behind, rfl⟩ := rounds_cons_eq_ok.mp handled
          obtain ⟨published, alone, total⟩ := ih later behind
          refine ⟨output :: published, ?_, ?_⟩
          · refine rounds_cons_eq_ok.mpr ⟨next, output, published, ?_, alone, rfl⟩
            rw [process_notification first]
            have once : rounds (handleKey settings now) state (some key).toList =
                .ok (next, [output]) :=
              rounds_cons_eq_ok.mpr ⟨next, output, [], one, rfl, rfl⟩
            rw [once]
            rfl
          · rw [List.sum_cons, List.sum_cons, total]

/-- **The records of an event are isolated.** With the calls of AWS succeeding, an event is handled
as its records one after another if and only if all of them can be read. -/
theorem isolates_iff : (consumer settings now).Isolates state event ↔ ReadsEvent event := by
  rw [← isOk_process_iff settings now state]
  constructor
  · rintro ⟨after, outputs, -, batched⟩
    exact congrArg Except.isOk batched
  · intro returns
    obtain ⟨⟨after, published⟩, batched⟩ := Except.exists_of_isOk returns
    obtain ⟨keys, extracted, handled⟩ := Except.bind_eq_ok.mp batched
    obtain ⟨⟨last, outputs⟩, ran, same⟩ := Except.map_eq_ok.mp handled
    cases same
    rw [extractS3Records_form] at extracted
    cases form : formOf event with
    | eventBridge detail =>
        have single : (consumer settings now).parts event = [event] := by
          simp only [consumer, parts, form]
        refine ⟨last, [outputs.sum], ?_, batched⟩
        rw [single]
        exact rounds_cons_eq_ok.mpr ⟨last, outputs.sum, [], batched, rfl, rfl⟩
    | direct records =>
        have several : (consumer settings now).parts event = records.map notification := by
          simp only [consumer, parts, form]
        rw [form] at extracted
        obtain ⟨read, found, same⟩ := Except.bind_eq_ok.mp extracted
        cases same
        obtain ⟨alone, one, total⟩ := rounds_notifications found ran
        refine ⟨last, alone, ?_, ?_⟩
        · rw [several]
          exact one
        · rw [← total] at batched
          exact batched
    | other =>
        have empty : (consumer settings now).parts event = [] := by
          simp only [consumer, parts, form]
        rw [form] at extracted
        cases extracted
        cases ran
        refine ⟨state, [], ?_, batched⟩
        rw [empty]
        rfl

end Panakoes.EventRouter
