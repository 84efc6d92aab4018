import Mathlib.Data.List.Nodup
import Panakoes.Foundation.Run
import Panakoes.StreamingRouter.FrameRouting

/-! # The warm cache of queue URLs

Frames fill the cache of a warm router and disconnects take entries out of it, while the clock of
the process goes on. An entry tells what was read of the session row of its connection, no earlier
than the time that it has.
-/

namespace Panakoes.StreamingRouter

open Streaming Transition

namespace QueueUrlCache

variable {cache : QueueUrlCache} {entry oldest : CacheEntry} {connectionId url : String} {now : ℚ}

/-- No connection has two entries, as the cache is a dictionary. -/
def Distinct (cache : QueueUrlCache) : Prop := (cache.map CacheEntry.connectionId).Nodup

theorem Distinct.pop (distinct : Distinct cache) : Distinct (pop cache connectionId) :=
  List.Nodup.sublist (List.filter_sublist.map _) distinct

theorem Distinct.set (distinct : Distinct cache) : Distinct (set cache entry) := by
  unfold Distinct QueueUrlCache.set
  split
  · have same : (fun other : CacheEntry =>
        (if other.connectionId = entry.connectionId then entry else other).connectionId) =
          CacheEntry.connectionId := by
      funext other
      split
      · rename_i here
        exact here.symm
      · rfl
    rw [List.map_map]
    exact (congrArg (fun name => (cache.map name).Nodup) same).mpr distinct
  · rename_i missed
    have absent : entry.connectionId ∉ cache.map CacheEntry.connectionId := by
      intro member
      obtain ⟨other, held, same⟩ := List.mem_map.mp member
      have found : (get cache entry.connectionId).isSome = true :=
        List.find?_isSome.mpr ⟨other, held, decide_eq_true same⟩
      exact missed found
    rw [List.map_append, List.map_singleton, ← List.concat_eq_append]
    exact List.Nodup.concat absent distinct

theorem length_set_le : (set cache entry).length ≤ cache.length + 1 := by
  unfold set
  split
  · rw [List.length_map]
    exact Nat.le_succ _
  · rw [List.length_append]
    exact le_rfl

theorem pop_eq_erase (distinct : Distinct cache) (held : oldest ∈ cache) :
    pop cache oldest.connectionId = cache.erase oldest := by
  have nodup : cache.Nodup := List.Nodup.of_map _ distinct
  rw [nodup.erase_eq_filter]
  apply List.filter_congr
  intro entry member
  have same : entry.connectionId = oldest.connectionId ↔ entry = oldest :=
    ⟨List.inj_on_of_nodup_map distinct member held, congrArg _⟩
  rw [Bool.eq_iff_iff, decide_eq_true_iff, bne_iff_ne, Ne, Ne, same]

/-- The cache is within its bound, or what is evicted is an entry with the least `cached_at`. -/
def Evicts (written after : QueueUrlCache) : Prop :=
  written.length ≤ cacheMax ∧ after = written ∨
    cacheMax < written.length ∧ ∃ oldest ∈ written,
      (∀ other ∈ written, oldest.cachedAt ≤ other.cachedAt) ∧ after = written.erase oldest

theorem evicts_evictIfNeeded (distinct : Distinct cache) : Evicts cache (evictIfNeeded cache) := by
  unfold evictIfNeeded
  by_cases small : cache.length ≤ cacheMax
  · rw [if_pos small]
    exact Or.inl ⟨small, rfl⟩
  · rw [if_neg small]
    cases least : cache.argmin CacheEntry.cachedAt with
    | none =>
        rw [List.argmin_eq_none] at least
        subst least
        exact absurd (Nat.zero_le _) small
    | some oldest =>
        have held : oldest ∈ cache := List.argmin_mem least
        refine Or.inr ⟨Nat.lt_of_not_le small, oldest, held, fun other member => ?_, ?_⟩
        · exact List.le_of_mem_argmin member least
        · exact pop_eq_erase distinct held

theorem Evicts.length_le {written after : QueueUrlCache} (evicts : Evicts written after)
    (most : written.length ≤ cacheMax + 1) : after.length ≤ cacheMax := by
  rcases evicts with ⟨small, same⟩ | ⟨-, oldest, held, -, same⟩
  · rw [same]
    exact small
  · rw [same, List.length_erase_of_mem held]
    omega

theorem Evicts.distinct {written after : QueueUrlCache} (evicts : Evicts written after)
    (distinct : Distinct written) : Distinct after := by
  rcases evicts with ⟨-, same⟩ | ⟨-, oldest, held, -, same⟩
  · rw [same]
    exact distinct
  · rw [same]
    exact List.Nodup.sublist (List.erase_sublist.map _) distinct

theorem Evicts.subset {written after : QueueUrlCache} (evicts : Evicts written after)
    (member : entry ∈ after) : entry ∈ written := by
  rcases evicts with ⟨-, same⟩ | ⟨-, oldest, held, -, same⟩
  · exact same ▸ member
  · rw [same] at member
    exact List.mem_of_mem_erase member

/-- What a resolution answers from the cache. -/
def answer (cache : QueueUrlCache) (connectionId : String) (now : ℚ) : Option String :=
  ((get cache connectionId).filter fun entry => entry.Fresh now).map CacheEntry.queueUrl

theorem answer_eq_some (answered : answer cache connectionId now = some url) :
    ∃ entry ∈ cache, entry.connectionId = connectionId ∧ entry.queueUrl = url ∧
      entry.Fresh now := by
  obtain ⟨entry, hit, named⟩ := Option.map_eq_some_iff.mp answered
  obtain ⟨found, fresh⟩ := Option.filter_eq_some_iff.mp hit
  obtain ⟨member, same⟩ := get_eq_some found
  exact ⟨entry, member, same, named, of_decide_eq_true fresh⟩

end QueueUrlCache

open QueueUrlCache

variable {legacyUrl connectionId url : String} {cache : QueueUrlCache} {now : ℚ} {read : RowRead}

theorem resolveFrameQueueUrl_of_answer (answered : answer cache connectionId now = some url) :
    resolveFrameQueueUrl legacyUrl cache connectionId now read = (some url, cache) := by
  obtain ⟨entry, hit, named⟩ := Option.map_eq_some_iff.mp answered
  unfold resolveFrameQueueUrl
  rw [hit, ← named]

/-- The cache as it is before the eviction: what is read of a row is written under its
connection. -/
def Writes (read : RowRead) (connectionId : String) (now : ℚ) (cache written : QueueUrlCache) :
    Prop :=
  written = cache ∨ ∃ queueUrl, read.Names queueUrl ∧
    written = QueueUrlCache.set cache ⟨connectionId, queueUrl, now⟩

theorem Writes.distinct {written : QueueUrlCache} (distinct : Distinct cache)
    (writes : Writes read connectionId now cache written) : Distinct written := by
  rcases writes with same | ⟨queueUrl, -, same⟩
  · exact same ▸ distinct
  · exact same ▸ distinct.set

theorem Writes.length_le {written : QueueUrlCache} (bounded : cache.length ≤ cacheMax)
    (writes : Writes read connectionId now cache written) : written.length ≤ cacheMax + 1 := by
  rcases writes with same | ⟨queueUrl, -, same⟩
  · rw [same]
    exact Nat.le_succ_of_le bounded
  · rw [same]
    exact length_set_le.trans (Nat.succ_le_succ bounded)

/-- What the cache does not answer is read. -/
theorem resolveFrameQueueUrl_of_none (legacyUrl : String) (read : RowRead)
    (distinct : Distinct cache) (bounded : cache.length ≤ cacheMax)
    (missed : answer cache connectionId now = none) :
    (∀ url, (resolveFrameQueueUrl legacyUrl cache connectionId now read).1 = some url →
      url = legacyUrl ∨ read.Names url) ∧
    ∃ written, Writes read connectionId now cache written ∧
      Evicts written (resolveFrameQueueUrl legacyUrl cache connectionId now read).2 := by
  have kept : ∃ written, Writes read connectionId now cache written ∧ Evicts written cache :=
    ⟨cache, Or.inl rfl, Or.inl ⟨bounded, rfl⟩⟩
  unfold resolveFrameQueueUrl
  rw [Option.map_eq_none_iff.mp missed]
  match read with
  | .failed => exact ⟨fun url same => Or.inl (Option.some.inj same).symm, kept⟩
  | .item none => exact ⟨fun url same => Or.inl (Option.some.inj same).symm, kept⟩
  | .item (some row) =>
      dsimp only
      cases named : nonempty row.frameQueueUrl with
      | none => exact ⟨fun url same => (nomatch same), kept⟩
      | some queueUrl =>
          have names : (RowRead.item (some row)).Names queueUrl :=
            ⟨row, rfl, (Option.filter_eq_some_iff.mp named).1⟩
          refine ⟨fun url same => ?_, _, Or.inr ⟨queueUrl, names, rfl⟩,
            evicts_evictIfNeeded distinct.set⟩
          exact Or.inr (Option.some.inj same ▸ names)

/-! ## A warm router -/

/-- What a router goes through. A frame brings how long the call lasts until the session row has
been read, and what the rows are then; the clock advances in between. -/
inductive Action where
  | frame (connectionId : String) (latency : ℚ) (getItem : String → RowRead)
  | disconnect (connectionId : String)
  | advance (elapsed : ℚ)

/-- The cache of a router, and `time.monotonic`. -/
structure WarmRouter where
  cache : QueueUrlCache
  clock : ℚ
  deriving DecidableEq

/-- The clock does not go back. `_route_disconnect` takes the entry out of the cache whatever comes
of its update of the row. -/
def WarmRouter.step (legacyUrl : String) (router : WarmRouter) : Action → Option WarmRouter
  | .frame connectionId latency getItem =>
      if 0 ≤ latency then
        some ⟨(resolveFrameQueueUrl legacyUrl router.cache connectionId router.clock
          (getItem connectionId)).2, router.clock + latency⟩
      else none
  | .disconnect connectionId => some { router with cache := pop router.cache connectionId }
  | .advance elapsed =>
      if 0 ≤ elapsed then some { router with clock := router.clock + elapsed } else none

/-- A session row that has been read. -/
structure Reading where
  connectionId : String
  row : RowRead
  readAt : ℚ

/-- What is read in a step: the row of the frame's connection, unless the cache answers. -/
def WarmRouter.reads (router : WarmRouter) : Action → List Reading
  | .frame connectionId latency getItem =>
      match answer router.cache connectionId router.clock with
      | some _ => []
      | none => [⟨connectionId, getItem connectionId, router.clock + latency⟩]
  | .disconnect _ => []
  | .advance _ => []

/-- The entry tells what has been read of the row of its connection, since its time. -/
def CacheEntry.ReadFrom (readings : List Reading) (entry : CacheEntry) : Prop :=
  ∃ reading ∈ readings, reading.connectionId = entry.connectionId ∧
    reading.row.Names entry.queueUrl ∧ entry.cachedAt ≤ reading.readAt

/-- The invariant of the cache. -/
structure Sound (readings : List Reading) (router : WarmRouter) : Prop where
  distinct : Distinct router.cache
  bounded : router.cache.length ≤ cacheMax
  read : ∀ entry ∈ router.cache, entry.ReadFrom readings

theorem CacheEntry.ReadFrom.append {readings : List Reading} {entry : CacheEntry}
    (known : entry.ReadFrom readings) (more : List Reading) : entry.ReadFrom (readings ++ more) := by
  obtain ⟨reading, member, rest⟩ := known
  exact ⟨reading, List.mem_append_left _ member, rest⟩

theorem sound_nil (clock : ℚ) : Sound [] ⟨[], clock⟩ where
  distinct := List.nodup_nil
  bounded := Nat.zero_le _
  read _ member := absurd member List.not_mem_nil

variable {router next : WarmRouter} {readings : List Reading} {action : Action}

/-- What is written under a connection has been read of its row. -/
theorem Writes.readFrom {written : QueueUrlCache} {getItem : String → RowRead} {latency : ℚ}
    (sound : Sound readings router) (latency_nonneg : 0 ≤ latency)
    (missed : answer router.cache connectionId router.clock = none)
    (writes : Writes (getItem connectionId) connectionId router.clock router.cache written)
    {entry : CacheEntry} (member : entry ∈ written) :
    entry.ReadFrom (readings ++ router.reads (.frame connectionId latency getItem)) := by
  have reads : router.reads (.frame connectionId latency getItem) =
      [⟨connectionId, getItem connectionId, router.clock + latency⟩] := by
    unfold WarmRouter.reads
    dsimp only
    rw [missed]
  rw [reads]
  rcases writes with same | ⟨queueUrl, names, same⟩
  · subst same
    exact (sound.read entry member).append _
  · rw [same] at member
    rcases mem_of_mem_set member with new | before
    · refine ⟨_, List.mem_append_right _ List.mem_cons_self, ?_⟩
      rw [new]
      exact ⟨rfl, names, le_add_of_nonneg_right latency_nonneg⟩
    · exact (sound.read entry before).append _

/-- Every step keeps the invariant. -/
theorem Sound.step (sound : Sound readings router)
    (taken : router.step legacyUrl action = some next) :
    Sound (readings ++ router.reads action) next := by
  cases action with
  | frame connectionId latency getItem =>
      obtain ⟨latency_nonneg, moved⟩ := Option.ite_none_right_eq_some.mp taken
      have made := Option.some.inj moved
      subst made
      cases answered : answer router.cache connectionId router.clock with
      | some url =>
          rw [resolveFrameQueueUrl_of_answer answered]
          exact ⟨sound.distinct, sound.bounded, fun entry member =>
            (sound.read entry member).append _⟩
      | none =>
          obtain ⟨-, written, writes, evicts⟩ := resolveFrameQueueUrl_of_none legacyUrl
            (getItem connectionId) sound.distinct sound.bounded answered
          have distinct := evicts.distinct (writes.distinct sound.distinct)
          have bounded := evicts.length_le (writes.length_le sound.bounded)
          refine ⟨distinct, bounded, fun entry member => ?_⟩
          exact writes.readFrom sound latency_nonneg answered (evicts.subset member)
  | disconnect connectionId =>
      cases taken
      refine ⟨sound.distinct.pop, ?_, fun entry member => ?_⟩
      · exact (List.length_filter_le _ _).trans sound.bounded
      · exact (sound.read entry (mem_of_mem_pop member)).append _
  | advance elapsed =>
      obtain ⟨-, moved⟩ := Option.ite_none_right_eq_some.mp taken
      have made := Option.some.inj moved
      subst made
      exact ⟨sound.distinct, sound.bounded, fun entry member => (sound.read entry member).append _⟩

/-- Every run keeps it. -/
theorem sound_of_run {clock : ℚ} {actions : List Action}
    (reached : execute (WarmRouter.step legacyUrl) ⟨[], clock⟩ actions = some router) :
    Sound (emitted (WarmRouter.step legacyUrl) WarmRouter.reads ⟨[], clock⟩ actions) router := by
  induction actions using List.reverseRecOn generalizing router with
  | nil =>
      cases reached
      exact sound_nil clock
  | append_singleton past action ih =>
      obtain ⟨before, run, taken⟩ := (execute_concat_eq_some _).mp reached
      rw [emitted_concat _ _ run]
      exact (ih run).step taken

/-! ## What holds of the cache -/

/-- What a resolution answers from the cache is of an entry within its time to live, and has been
read of the connection's own row less than that time ago. -/
def Answers (readings : List Reading) (router : WarmRouter) (connectionId url : String) : Prop :=
  (∃ entry ∈ router.cache, entry.connectionId = connectionId ∧ entry.queueUrl = url ∧
    router.clock - entry.cachedAt < cacheTtlSeconds) ∧
  ∃ reading ∈ readings, reading.connectionId = connectionId ∧ reading.row.Names url ∧
    router.clock - reading.readAt < cacheTtlSeconds

/-- The laws of the cache, where the rows have been read so far as the readings tell. -/
structure CacheLaws (legacyUrl : String) (readings : List Reading) (router : WarmRouter) : Prop where
  bounded : router.cache.length ≤ cacheMax
  answered : ∀ connectionId url, answer router.cache connectionId router.clock = some url →
    (∀ read, (resolveFrameQueueUrl legacyUrl router.cache connectionId router.clock read).1 =
      some url) ∧ Answers readings router connectionId url
  missed : ∀ connectionId, answer router.cache connectionId router.clock = none → ∀ read url,
    (resolveFrameQueueUrl legacyUrl router.cache connectionId router.clock read).1 = some url →
      url = legacyUrl ∨ read.Names url
  evicted : ∀ connectionId latency getItem next,
    router.step legacyUrl (.frame connectionId latency getItem) = some next →
      ∃ written, Writes (getItem connectionId) connectionId router.clock router.cache written ∧
        Evicts written next.cache
  disconnected : ∀ connectionId next,
    router.step legacyUrl (.disconnect connectionId) = some next →
      ∀ entry ∈ next.cache, entry.connectionId ≠ connectionId

theorem Sound.answers (sound : Sound readings router)
    (answered : answer router.cache connectionId router.clock = some url) :
    Answers readings router connectionId url := by
  obtain ⟨entry, member, same, named, fresh⟩ := answer_eq_some answered
  refine ⟨⟨entry, member, same, named, fresh⟩, ?_⟩
  obtain ⟨reading, known, of, names, since⟩ := sound.read entry member
  refine ⟨reading, known, of.trans same, named ▸ names, ?_⟩
  exact lt_of_le_of_lt (sub_le_sub_left since _) fresh

/-- **The laws of the cache** hold after every run. -/
theorem cacheLaws_of_run (legacyUrl : String) (clock : ℚ) (actions : List Action)
    (router : WarmRouter)
    (reached : execute (WarmRouter.step legacyUrl) ⟨[], clock⟩ actions = some router) :
    CacheLaws legacyUrl
      (emitted (WarmRouter.step legacyUrl) WarmRouter.reads ⟨[], clock⟩ actions) router := by
  have sound := sound_of_run reached
  refine ⟨sound.bounded, fun connectionId url answered => ?_, fun connectionId missed read => ?_,
    fun connectionId latency getItem next taken => ?_, fun connectionId next taken => ?_⟩
  · refine ⟨fun read => ?_, sound.answers answered⟩
    rw [resolveFrameQueueUrl_of_answer answered]
  · exact (resolveFrameQueueUrl_of_none legacyUrl read sound.distinct sound.bounded missed).1
  · obtain ⟨-, moved⟩ := Option.ite_none_right_eq_some.mp taken
    have made := Option.some.inj moved
    subst made
    cases answered : answer router.cache connectionId router.clock with
    | some url =>
        rw [resolveFrameQueueUrl_of_answer answered]
        exact ⟨router.cache, Or.inl rfl, Or.inl ⟨sound.bounded, rfl⟩⟩
    | none =>
        exact (resolveFrameQueueUrl_of_none legacyUrl _ sound.distinct sound.bounded answered).2
  · cases taken
    intro entry member
    exact of_decide_eq_true (List.mem_filter.mp member).2

/-- A queue that has been read a minute ago. -/
theorem cacheLaws_of_frame :
    CacheLaws "legacy" (emitted (WarmRouter.step "legacy") WarmRouter.reads ⟨[], 0⟩
      [.frame "c1" 1 fun _ => .item (some { connectItem "c1" ⟨"", "", "", "", 0, none, none⟩ with
        frameQueueUrl := some "queue" }), .advance 60]) ⟨[⟨"c1", "queue", 0⟩], 61⟩ :=
  cacheLaws_of_run "legacy" 0 _ _ (by decide +kernel)

end Panakoes.StreamingRouter
