import Mathlib.Data.Finset.Preimage
import Mathlib.Data.Fintype.EquivFin
import Mathlib.Data.String.Basic
import Panakoes.Foundation.ConditionalWrite
import Panakoes.Foundation.PyJson
import Panakoes.Foundation.Table

/-! # The billing event log

An append-only table of billing events. Every append puts an item under a new
ULID, which it draws from the clock and 80 random bits.
-/

namespace Panakoes.Billing

open ConditionalWrite

/-- The primary key of an item: `pk` and `sk`. -/
abbrev EventKey := String × String

/-- An item of the event log, without its two keys. -/
abbrev EventItem := List (String × PyJson)

/-- The event log. -/
abbrev EventLog := Table EventKey EventItem

/-- `_user_pk`. -/
def userPk (userId : String) : String := "USER#" ++ userId

/-- `_event_sk`. -/
def eventSk (eventId : String) : String := "EVENT#" ++ eventId

/-- The keys of an item that its attributes cannot overwrite. -/
def protectedKeys : List String :=
  ["pk", "sk", "event_id", "user_id", "event_type", "created_at"]

/-- The item `append` puts. -/
def eventItem (userId eventType eventId now : String) (attributes : List (String × PyJson)) :
    EventItem :=
  let item := [("event_id", .str eventId), ("user_id", .str userId),
    ("event_type", .str eventType), ("created_at", .str now)]
  (attributes.filter (·.1 ∉ protectedKeys)).foldl
    (fun item field => PyJson.set item field.1 field.2) item

/-- Where `append` puts an item. -/
def eventKey (userId eventId : String) : EventKey := (userPk userId, eventSk eventId)

/-- `BillingEventStore.append`, with the ULID it draws and the time. -/
def append (fault : Fault) (log : EventLog) (userId eventType eventId now : String)
    (attributes : List (String × PyJson)) : Outcome EventLog :=
  put fault log
    (log.insert (eventKey userId eventId) (eventItem userId eventType eventId now attributes))

/-- No item carries the id yet. -/
def EventLog.Unused (log : EventLog) (eventId : String) : Prop :=
  ∀ key ∈ log.keys, key.2 ≠ eventSk eventId

instance (log : EventLog) (eventId : String) : Decidable (log.Unused eventId) :=
  inferInstanceAs (Decidable (∀ key ∈ log.keys, _))

variable {log : EventLog} {userId eventId : String}

theorem EventLog.Unused.eventKey_notMem (unused : log.Unused eventId) (userId : String) :
    eventKey userId eventId ∉ log :=
  fun member => unused (eventKey userId eventId) member rfl

/-- There is always an id that no item carries. -/
theorem EventLog.exists_unused (log : EventLog) : ∃ eventId, log.Unused eventId := by
  have injective : Function.Injective eventSk := fun _ _ same =>
    (String.append_right_inj "EVENT#").mp same
  let used := (log.keys.map Prod.snd).toFinset.preimage eventSk injective.injOn
  obtain ⟨eventId, unused⟩ := Infinite.exists_notMem_finset used
  refine ⟨eventId, fun key member same => unused ?_⟩
  rw [Finset.mem_preimage, List.mem_toFinset, ← same]
  exact List.mem_map_of_mem member

/-- An item under a new key makes another log. -/
theorem EventLog.Unused.insert_ne (unused : log.Unused eventId) (item : EventItem) :
    log.insert (eventKey userId eventId) item ≠ log := by
  intro same
  apply unused.eventKey_notMem userId
  rw [← same]
  exact (AList.mem_insert _).mpr (Or.inl rfl)

end Panakoes.Billing

/-! ## The ids of billing events

An id has ten characters for the millisecond in which it is drawn and sixteen for 80 random bits.
The characters of the alphabet are in order, so ids of different milliseconds are ordered as these
are, whatever their random bits.
-/

namespace Panakoes.Billing

/-- `_CROCKFORD`. -/
def crockford : List Char := "0123456789ABCDEFGHJKMNPQRSTVWXYZ".toList

/-- `_encode_b32`, as characters. -/
def encodeB32 : ℕ → ℕ → List Char
  | _, 0 => []
  | value, length + 1 => encodeB32 (value >>> 5) length ++ [crockford.getD (value &&& 0x1F) '0']

/-- `new_ulid`, of the clock in milliseconds and the random bits. -/
def newUlid (timestampMs randomBits : ℕ) : String :=
  String.ofList (encodeB32 timestampMs 10 ++ encodeB32 randomBits 16)

/-- Where two texts differ first, the first of them has the lesser character. -/
def Precedes (first second : List Char) : Prop :=
  ∃ common lesser greater firstRest secondRest, first = common ++ lesser :: firstRest ∧
    second = common ++ greater :: secondRest ∧ lesser < greater

variable {first second : List Char}

theorem Precedes.append (precedes : Precedes first second) (firstMore secondMore : List Char) :
    Precedes (first ++ firstMore) (second ++ secondMore) := by
  obtain ⟨common, lesser, greater, firstRest, secondRest, rfl, rfl, less⟩ := precedes
  refine ⟨common, lesser, greater, firstRest ++ firstMore, secondRest ++ secondMore, ?_, ?_, less⟩
  · rw [List.append_assoc, List.cons_append]
  · rw [List.append_assoc, List.cons_append]

theorem Precedes.append_left (precedes : Precedes first second) (stem : List Char) :
    Precedes (stem ++ first) (stem ++ second) := by
  obtain ⟨common, lesser, greater, firstRest, secondRest, rfl, rfl, less⟩ := precedes
  exact ⟨stem ++ common, lesser, greater, firstRest, secondRest, (List.append_assoc ..).symm,
    (List.append_assoc ..).symm, less⟩

theorem Precedes.lt (precedes : Precedes first second) : first < second := by
  obtain ⟨common, lesser, greater, firstRest, secondRest, rfl, rfl, less⟩ := precedes
  induction common with
  | nil => exact List.Lex.rel less
  | cons char common ih => exact List.Lex.cons ih

theorem crockford_lt {lesser greater : ℕ} (less : lesser < greater) (small : greater < 32) :
    crockford.getD lesser '0' < crockford.getD greater '0' := by
  have all : ∀ greater < 32, ∀ lesser < greater,
      crockford.getD lesser '0' < crockford.getD greater '0' := by decide
  exact all greater small lesser less

/-- Numbers of so many digits are written in their order. -/
theorem precedes_encodeB32 {lesser greater length : ℕ} (less : lesser < greater)
    (small : greater < 32 ^ length) :
    Precedes (encodeB32 lesser length) (encodeB32 greater length) := by
  induction length generalizing lesser greater with
  | zero =>
      rw [pow_zero] at small
      omega
  | succ length ih =>
      have digit (value : ℕ) : value &&& 0x1F = value % 32 := Nat.and_two_pow_sub_one_eq_mod value 5
      rw [encodeB32, encodeB32, Nat.shiftRight_eq_div_pow, Nat.shiftRight_eq_div_pow, digit, digit]
      by_cases shorter : lesser / 2 ^ 5 < greater / 2 ^ 5
      · have fits : greater / 2 ^ 5 < 32 ^ length := by
          rw [pow_succ] at small
          omega
        exact (ih shorter fits).append _ _
      · -- only the last digits differ
        have same : lesser / 2 ^ 5 = greater / 2 ^ 5 := by omega
        rw [same]
        exact ⟨_, _, _, [], [], rfl, rfl,
          crockford_lt (by omega) (Nat.mod_lt greater (by decide))⟩

theorem toList_eventSk (timestampMs randomBits : ℕ) :
    (eventSk (newUlid timestampMs randomBits)).toList =
      "EVENT#".toList ++ (encodeB32 timestampMs 10 ++ encodeB32 randomBits 16) := by
  simp only [eventSk, newUlid, String.toList_append, String.toList_ofList]

/-- The sort keys of events of different milliseconds are in order. -/
theorem eventSk_newUlid_lt {earlier later : ℕ} (less : earlier < later) (small : later < 2 ^ 50)
    (earlierBits laterBits : ℕ) :
    eventSk (newUlid earlier earlierBits) < eventSk (newUlid later laterBits) := by
  have ordered : Precedes (encodeB32 earlier 10) (encodeB32 later 10) :=
    precedes_encodeB32 less small
  apply String.lt_iff_toList_lt.mpr
  rw [toList_eventSk, toList_eventSk]
  exact ((ordered.append _ _).append_left _).lt

example : newUlid 1778457600000 1 = "01KRA5AR000000000000000001" := by decide +kernel

end Panakoes.Billing
