import Mathlib.Algebra.Order.Ring.Rat
import Mathlib.Data.List.MinMax
import Panakoes.Foundation.PyJson
import Panakoes.Streaming.SessionRow

/-! # Routing audio frames

The `audio-frame` route of the streaming-router: find the session's frame queue
in the warm cache or in the session row, build the queue message, and send it.
The cache is a dictionary in insertion order; a clock reading is an exact
rational.
-/

namespace Panakoes.StreamingRouter

open Streaming

/-- `_CACHE_MAX`. -/
def cacheMax : ℕ := 1024

/-- `_CACHE_TTL_SECONDS`. -/
def cacheTtlSeconds : ℚ := 1800

/-- An entry of the cache: the queue URL and when it was read. -/
structure CacheEntry where
  connectionId : String
  queueUrl : String
  cachedAt : ℚ
  deriving DecidableEq

/-- `_queue_url_cache`. -/
abbrev QueueUrlCache := List CacheEntry

/-- The entry is within its time to live. -/
def CacheEntry.Fresh (entry : CacheEntry) (now : ℚ) : Prop := now - entry.cachedAt < cacheTtlSeconds

instance (entry : CacheEntry) (now : ℚ) : Decidable (entry.Fresh now) :=
  inferInstanceAs (Decidable (_ < _))

/-- An entry fresh later was fresh earlier. -/
theorem CacheEntry.Fresh.earlier {entry : CacheEntry} {now later : ℚ} (le : now ≤ later)
    (fresh : entry.Fresh later) : entry.Fresh now := by
  unfold CacheEntry.Fresh at fresh ⊢
  exact lt_of_le_of_lt (sub_le_sub_right le _) fresh

namespace QueueUrlCache

/-- `cache.get(connection_id)`. -/
def get (cache : QueueUrlCache) (connectionId : String) : Option CacheEntry :=
  cache.find? fun entry => entry.connectionId = connectionId

/-- `cache.pop(connection_id, None)`. -/
def pop (cache : QueueUrlCache) (connectionId : String) : QueueUrlCache :=
  cache.filter fun entry => entry.connectionId ≠ connectionId

/-- `cache[connection_id] = (queue_url, now)`. -/
def set (cache : QueueUrlCache) (entry : CacheEntry) : QueueUrlCache :=
  if (get cache entry.connectionId).isSome then
    cache.map fun other => if other.connectionId = entry.connectionId then entry else other
  else cache ++ [entry]

/-- `_evict_cache_if_needed`: drop the first entry with the least `cached_at`. -/
def evictIfNeeded (cache : QueueUrlCache) : QueueUrlCache :=
  if cache.length ≤ cacheMax then cache
  else
    match cache.argmin CacheEntry.cachedAt with
    | none => cache
    | some oldest => pop cache oldest.connectionId

variable {cache : QueueUrlCache} {entry other : CacheEntry} {connectionId : String}

theorem mem_of_mem_pop (member : entry ∈ pop cache connectionId) : entry ∈ cache :=
  List.mem_of_mem_filter member

theorem mem_of_mem_evictIfNeeded (member : entry ∈ evictIfNeeded cache) : entry ∈ cache := by
  unfold evictIfNeeded at member
  split at member
  · exact member
  · split at member
    · exact member
    · exact mem_of_mem_pop member

theorem mem_of_mem_set (member : other ∈ set cache entry) : other = entry ∨ other ∈ cache := by
  unfold set at member
  split at member
  · obtain ⟨before, held, rfl⟩ := List.mem_map.mp member
    by_cases same : before.connectionId = entry.connectionId
    · rw [if_pos same]
      exact Or.inl rfl
    · rw [if_neg same]
      exact Or.inr held
  · rcases List.mem_append.mp member with before | new
    · exact Or.inr before
    · exact Or.inl (List.mem_singleton.mp new)

theorem get_eq_some (found : get cache connectionId = some entry) :
    entry ∈ cache ∧ entry.connectionId = connectionId :=
  ⟨List.mem_of_find?_eq_some found, by simpa using List.find?_some found⟩

end QueueUrlCache

/-- How `get_item` on the session row ends. -/
inductive RowRead where
  | failed
  | item (row : Option SessionRow)

/-- `_resolve_frame_queue_url`, with the cache it leaves. -/
def resolveFrameQueueUrl (legacyUrl : String) (cache : QueueUrlCache) (connectionId : String)
    (now : ℚ) (read : RowRead) : Option String × QueueUrlCache :=
  match (QueueUrlCache.get cache connectionId).filter fun entry => entry.Fresh now with
  | some entry => (some entry.queueUrl, cache)
  | none =>
      match read with
      | .failed => (some legacyUrl, cache)
      | .item none => (some legacyUrl, cache)
      | .item (some row) =>
          match nonempty row.frameQueueUrl with
          | some queueUrl =>
              (some queueUrl, QueueUrlCache.evictIfNeeded
                (QueueUrlCache.set cache ⟨connectionId, queueUrl, now⟩))
          | none => (none, cache)

/-- The session row that was read names the queue. -/
def RowRead.Names (read : RowRead) (queueUrl : String) : Prop :=
  ∃ row, read = .item (some row) ∧ row.frameQueueUrl = some queueUrl

/-- What a resolved URL and the entries left in the cache come from. -/
theorem resolveFrameQueueUrl_spec (legacyUrl : String) (cache : QueueUrlCache)
    (connectionId : String) (now : ℚ) (read : RowRead) :
    (∀ queueUrl ∈ (resolveFrameQueueUrl legacyUrl cache connectionId now read).1,
      queueUrl = legacyUrl ∨ read.Names queueUrl ∨
        ∃ entry ∈ cache, entry.connectionId = connectionId ∧ entry.queueUrl = queueUrl ∧
          entry.Fresh now) ∧
      ∀ entry ∈ (resolveFrameQueueUrl legacyUrl cache connectionId now read).2,
        entry ∈ cache ∨ (entry.connectionId = connectionId ∧ read.Names entry.queueUrl) := by
  unfold resolveFrameQueueUrl
  split
  · rename_i entry hit
    obtain ⟨found, fresh⟩ := Option.filter_eq_some_iff.mp hit
    obtain ⟨member, same⟩ := QueueUrlCache.get_eq_some found
    refine ⟨fun queueUrl resolved => ?_, fun _ => Or.inl⟩
    cases resolved
    exact Or.inr (Or.inr ⟨entry, member, same, rfl, by simpa using fresh⟩)
  · split
    · exact ⟨fun _ resolved => Or.inl (Option.some.inj resolved).symm, fun _ => Or.inl⟩
    · exact ⟨fun _ resolved => Or.inl (Option.some.inj resolved).symm, fun _ => Or.inl⟩
    · rename_i row
      split
      · rename_i queueUrl named
        have names : (RowRead.item (some row)).Names queueUrl :=
          ⟨row, rfl, (Option.filter_eq_some_iff.mp named).1⟩
        refine ⟨fun _ resolved => ?_, fun entry member => ?_⟩
        · cases resolved
          exact Or.inr (Or.inl names)
        · rcases QueueUrlCache.mem_of_mem_set
            (QueueUrlCache.mem_of_mem_evictIfNeeded member) with rfl | before
          · exact Or.inr ⟨rfl, names⟩
          · exact Or.inl before
      · exact ⟨by rintro _ ⟨⟩, fun _ => Or.inl⟩

/-- The JSON codec of the standard library. -/
structure Codec where
  loads : String → Except PyError PyJson
  dumps : PyJson → String

/-- The client's frame envelope: what `body` decodes to, if that is an object.
Only a decode error is caught. -/
def flattenBody (codec : Codec) (body : Option String) : Except PyError (List (String × PyJson)) :=
  match nonempty body with
  | none => .ok []
  | some text =>
      match codec.loads text with
      | .ok (.dict entries) => .ok entries
      | .ok _ => .ok []
      | .error .jsonDecodeError => .ok []
      | .error error => .error error

/-- `body` as it is kept in the queue message. -/
def bodyValue : Option String → PyJson
  | some text => .str text
  | none => .none

/-- The queue message: the client's envelope under the router's own keys. -/
def framePayload (flattened : List (String × PyJson)) (connectionId : String)
    (body : Option String) (receivedAt : String) : PyJson :=
  .dict (PyJson.set (PyJson.set (PyJson.set flattened "session_id" (.str connectionId))
    "body" (bodyValue body)) "received_at" (.str receivedAt))

/-- The arguments of `send_message`; `sessionId` is the message attribute. -/
structure SendRequest where
  queueUrl : String
  sessionId : String
  messageBody : String
  deriving DecidableEq

/-- An `audio-frame` event as it reaches the route. -/
structure FrameEvent where
  connectionId : String
  body : Option String
  receivedAt : String

/-- `_route_audio_frame` up to the send, with the cache it leaves. A frame
without a queue is dropped; an exception ends the handler. -/
def routeAudioFrame (codec : Codec) (legacyUrl : String) (cache : QueueUrlCache)
    (event : FrameEvent) (now : ℚ) (read : RowRead) : Option SendRequest × QueueUrlCache :=
  let (queueUrl, cache) := resolveFrameQueueUrl legacyUrl cache event.connectionId now read
  match nonempty queueUrl, flattenBody codec event.body with
  | some queueUrl, .ok flattened =>
      (some ⟨queueUrl, event.connectionId, codec.dumps
        (framePayload flattened event.connectionId event.body event.receivedAt)⟩, cache)
  | _, _ => (none, cache)

/-- A frame is sent for its own connection to the queue that was resolved. -/
theorem routeAudioFrame_spec (codec : Codec) (legacyUrl : String) (cache : QueueUrlCache)
    (event : FrameEvent) (now : ℚ) (read : RowRead) :
    (∀ request ∈ (routeAudioFrame codec legacyUrl cache event now read).1,
      request.sessionId = event.connectionId ∧
        (request.queueUrl = legacyUrl ∨ read.Names request.queueUrl ∨
          ∃ entry ∈ cache, entry.connectionId = event.connectionId ∧
            entry.queueUrl = request.queueUrl ∧ entry.Fresh now)) ∧
      ∀ entry ∈ (routeAudioFrame codec legacyUrl cache event now read).2,
        entry ∈ cache ∨
          (entry.connectionId = event.connectionId ∧ read.Names entry.queueUrl) := by
  obtain ⟨urls, entries⟩ := resolveFrameQueueUrl_spec legacyUrl cache event.connectionId now read
  unfold routeAudioFrame
  split
  rename_i queueUrl left resolved
  rw [resolved] at urls entries
  split
  · rename_i found flattened named decoded
    refine ⟨fun request sent => ?_, entries⟩
    cases sent
    exact ⟨rfl, urls found (Option.filter_eq_some_iff.mp named).1⟩
  · exact ⟨by rintro _ ⟨⟩, entries⟩

end Panakoes.StreamingRouter
