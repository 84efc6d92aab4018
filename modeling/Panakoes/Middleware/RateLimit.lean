import Mathlib.Algebra.Order.Ring.Rat
import Mathlib.Data.List.Induction
import Mathlib.Data.String.Basic
import Mathlib.Logic.Function.Basic
import Panakoes.Foundation.Rounding
import Panakoes.Foundation.SortedSet

/-! # Sliding-window rate limiting

The two stores of the rate limiter record one timestamp a hit and answer how many of the
key are in the window, and the oldest of them. `InMemoryStore` keeps a deque of the
timestamps; `RedisStore` keeps a sorted set whose members are the timestamps written with
six decimal places. The sorted set holds a member once.

A clock reading is a nonnegative rational: every float is one, and `now - window_seconds`
is exact on the floats that `time.time()` returns.
-/

namespace Panakoes.Middleware

open SortedSet

variable {κ : Type*}

/-- A call of `hit`, with the clock reading it makes. -/
structure Hit (κ : Type*) where
  key : κ
  windowSeconds : ℤ
  now : ℚ≥0
  deriving DecidableEq

/-- `now - window_seconds`. -/
def Hit.cutoff (hit : Hit κ) : ℚ := hit.now - hit.windowSeconds

/-- The answer of a store: the hits in the window and the oldest timestamp. -/
structure Answer where
  count : ℕ
  oldest : ℚ
  deriving DecidableEq

/-- The answers of a store to hits in turn. -/
def answers {σ : Type*} (hit : σ → Hit κ → Answer × σ) (store : σ) : List (Hit κ) → List Answer
  | [] => []
  | call :: rest => (hit store call).1 :: answers hit (hit store call).2 rest

/-- The store after hits in turn. -/
def after {σ : Type*} (hit : σ → Hit κ → Answer × σ) (store : σ) (hits : List (Hit κ)) : σ :=
  hits.foldl (fun store call => (hit store call).2) store

/-! ## The store of one process -/

/-- `InMemoryStore`: the deque of each key. -/
abbrev InMemoryStore (κ : Type*) := κ → List ℚ≥0

/-- The deque of a key after the expired timestamps are popped. -/
def InMemoryStore.trimmed (store : InMemoryStore κ) (call : Hit κ) : List ℚ≥0 :=
  (store call.key).dropWhile fun stamp : ℚ≥0 => (stamp : ℚ) ≤ call.cutoff

/-- `InMemoryStore.hit`. -/
def InMemoryStore.hit [DecidableEq κ] (store : InMemoryStore κ) (call : Hit κ) :
    Answer × InMemoryStore κ :=
  let bucket := store.trimmed call ++ [call.now]
  (⟨bucket.length, bucket.headD call.now⟩, Function.update store call.key bucket)

/-! ## The store in Redis -/

/-- The microseconds of a timestamp, as `f"{now:.6f}"` rounds them. -/
def microseconds (now : ℚ≥0) : ℕ := (Rounding.halfEven (now * 10 ^ 6)).toNat

/-- `f"{now:.6f}"`. -/
def memberText (now : ℚ≥0) : String := Rounding.fixedText 6 (microseconds now)

/-- The server's clock, in milliseconds. -/
def mstime (now : ℚ≥0) : ℤ := ⌊(now : ℚ) * 1000⌋

/-- What the server holds under a key: a sorted set, empty when there is none, and when it
expires. -/
structure Volatile where
  set : SortedSet ℚ String
  expireAt : Option ℤ

/-- The sorted set of a key at a time of the server. -/
def Volatile.live (held : Volatile) (now : ℚ≥0) : SortedSet ℚ String :=
  match held.expireAt with
  | some deadline => if deadline < mstime now then ∅ else held.set
  | none => held.set

/-- `EXPIRE`: a time to live that is not positive deletes the key. -/
def Volatile.expire (set : SortedSet ℚ String) (now : ℚ≥0) (seconds : ℤ) : Volatile :=
  if seconds ≤ 0 then ⟨∅, none⟩ else ⟨set, some (mstime now + seconds * 1000)⟩

/-- `RedisStore`: what the server holds under each key. -/
abbrev RedisStore (κ : Type*) := κ → Volatile

/-- A server that holds nothing. -/
def RedisStore.initial : RedisStore κ := fun _ => ⟨∅, none⟩

/-- The sorted set of a key after the trim. -/
def RedisStore.trimmed (store : RedisStore κ) (call : Hit κ) : SortedSet ℚ String :=
  ((store call.key).live call.now).zremrangebyscore 0 call.cutoff

/-- `RedisStore.hit`: one transaction, at the instant of the clock reading. -/
def RedisStore.hit [DecidableEq κ] (store : RedisStore κ) (call : Hit κ) :
    Answer × RedisStore κ :=
  let added := (store.trimmed call).zadd (memberText call.now) call.now
  let oldest := (added.first?.map Entry.score).getD call.now
  (⟨added.zcard, oldest⟩,
    Function.update store call.key (Volatile.expire added call.now (call.windowSeconds + 1)))

theorem memberText_inj {first second : ℚ≥0} :
    memberText first = memberText second ↔ microseconds first = microseconds second :=
  Rounding.fixedText_inj

/-! ## When the stores agree -/

/-- The hit takes an earlier one of its key out of the window. -/
def Hit.Drops (hit earlier : Hit κ) : Prop :=
  earlier.key = hit.key ∧ (earlier.now : ℚ) ≤ hit.cutoff

/-- The time to live that the earlier hit gives its key is not over at the later one. -/
def Hit.KeepsUntil (earlier hit : Hit κ) : Prop :=
  0 < earlier.windowSeconds + 1 ∧
    mstime hit.now ≤ mstime earlier.now + (earlier.windowSeconds + 1) * 1000

instance (earlier hit : Hit κ) : Decidable (earlier.KeepsUntil hit) :=
  inferInstanceAs (Decidable (_ ∧ _))

theorem live_expire (set : SortedSet ℚ String) (earlier hit : Hit κ) :
    (Volatile.expire set earlier.now (earlier.windowSeconds + 1)).live hit.now =
      if earlier.KeepsUntil hit then set else ∅ := by
  unfold Hit.KeepsUntil
  by_cases positive : 0 < earlier.windowSeconds + 1
  · simp only [Volatile.expire, not_le.mpr positive, ↓reduceIte, Volatile.live, positive, true_and]
    by_cases expired :
        mstime earlier.now + (earlier.windowSeconds + 1) * 1000 < mstime hit.now
    · rw [if_pos expired, if_neg (not_le.mpr expired)]
    · rw [if_neg expired, if_pos (not_lt.mp expired)]
  · simp only [Volatile.expire, not_lt.mp positive, ↓reduceIte, Volatile.live, positive, false_and]

/-- A hit that is in the window with an earlier one of its key does not share its
microsecond, and comes before the key expires. -/
def ToldApart (earlier : Hit κ) (between : List (Hit κ)) (hit : Hit κ) : Prop :=
  earlier.key = hit.key → (∀ later ∈ between ++ [hit], ¬ later.Drops earlier) →
    microseconds earlier.now ≠ microseconds hit.now ∧
      ((∀ other ∈ between, other.key ≠ hit.key) → earlier.KeepsUntil hit)

/-- Every two hits of a sequence are told apart. -/
def Separated (hits : List (Hit κ)) : Prop :=
  ∀ earlier between hit, earlier :: (between ++ [hit]) <:+: hits → ToldApart earlier between hit

/-- The clock does not run backwards. -/
def Clocked (hits : List (Hit κ)) : Prop :=
  hits.Pairwise fun earlier later => earlier.now ≤ later.now

theorem separated_nil : Separated ([] : List (Hit κ)) := by
  intro earlier between hit part
  exact absurd (List.infix_nil.mp part) (List.cons_ne_nil _ _)

theorem cons_suffix_concat_iff {past between : List (Hit κ)} {earlier hit : Hit κ} :
    earlier :: between <:+ past ++ [hit] ↔
      (earlier = hit ∧ between = []) ∨
        ∃ front, between = front ++ [hit] ∧ earlier :: front <:+ past := by
  rw [List.suffix_concat_iff]
  constructor
  · rintro (nil | ⟨front, same, part⟩)
    · exact absurd nil (List.cons_ne_nil _ _)
    · cases front with
      | nil => exact Or.inl (List.cons.inj same)
      | cons first front =>
          obtain ⟨rfl, rfl⟩ := List.cons.inj same
          exact Or.inr ⟨front, rfl, part⟩
  · rintro (⟨rfl, rfl⟩ | ⟨front, rfl, part⟩)
    · exact Or.inr ⟨[], rfl, List.nil_suffix⟩
    · exact Or.inr ⟨earlier :: front, rfl, part⟩

theorem separated_concat {past : List (Hit κ)} {hit : Hit κ} :
    Separated (past ++ [hit]) ↔
      Separated past ∧
        ∀ earlier between, earlier :: between <:+ past → ToldApart earlier between hit := by
  constructor
  · intro separated
    refine ⟨fun earlier between other part => ?_, fun earlier between part => ?_⟩
    · exact separated earlier between other (List.infix_concat_iff.mpr (Or.inr part))
    · refine separated earlier between hit (List.infix_concat_iff.mpr (Or.inl ?_))
      exact cons_suffix_concat_iff.mpr (Or.inr ⟨between, rfl, part⟩)
  · rintro ⟨separated, last⟩ earlier between other part
    rcases List.infix_concat_iff.mp part with part | part
    · rcases cons_suffix_concat_iff.mp part with ⟨-, nil⟩ | ⟨front, same, inside⟩
      · exact absurd nil (List.append_ne_nil_of_right_ne_nil _ (List.cons_ne_nil _ _))
      · obtain ⟨rfl, ends⟩ := List.append_inj' same rfl
        cases ends
        exact last earlier between inside
    · exact separated earlier between other part

/-! ## What the stores hold after a run -/

/-- The entry of a timestamp. -/
def entryOf (stamp : ℚ≥0) : Entry ℚ String := ⟨stamp, memberText stamp⟩

/-- The hits that the deques and the sorted sets stand for. -/
structure Mirrors (past : List (Hit κ)) (memory : InMemoryStore κ) (redis : RedisStore κ) :
    Prop where
  mem_iff : ∀ key stamp, stamp ∈ memory key ↔
    ∃ earlier between, earlier :: between <:+ past ∧ earlier.key = key ∧
      earlier.now = stamp ∧ ∀ later ∈ between, ¬ later.Drops earlier
  sorted : ∀ key, (memory key).Pairwise (· ≤ ·)
  held : ∀ key, ((∀ hit ∈ past, hit.key ≠ key) ∧ redis key = ⟨∅, none⟩) ∨
    ∃ last between set, last :: between <:+ past ∧ last.key = key ∧
      (∀ other ∈ between, other.key ≠ key) ∧ set.entries = (memory key).map entryOf ∧
      redis key = Volatile.expire set last.now (last.windowSeconds + 1)

theorem Mirrors.initial : Mirrors [] (fun _ : κ => []) RedisStore.initial where
  mem_iff key stamp := by
    refine ⟨fun held => absurd held List.not_mem_nil, ?_⟩
    rintro ⟨earlier, between, part, -⟩
    exact absurd (List.suffix_nil.mp part) (List.cons_ne_nil _ _)
  sorted key := List.Pairwise.nil
  held key := Or.inl ⟨fun _ member => absurd member List.not_mem_nil, rfl⟩

/-- Popping from a sorted deque leaves what is above the cutoff. -/
theorem dropWhile_eq_filter {bucket : List ℚ≥0} (sorted : bucket.Pairwise (· ≤ ·)) (cutoff : ℚ) :
    bucket.dropWhile (fun stamp : ℚ≥0 => (stamp : ℚ) ≤ cutoff) =
      bucket.filter fun stamp : ℚ≥0 => cutoff < (stamp : ℚ) := by
  induction bucket with
  | nil => rfl
  | cons first rest ih =>
      obtain ⟨least, sorted⟩ := List.pairwise_cons.mp sorted
      by_cases expired : (first : ℚ) ≤ cutoff
      · simp only [List.dropWhile_cons, List.filter_cons, expired, not_lt.mpr expired, decide_true,
          decide_false, ↓reduceIte, Bool.false_eq_true, ih sorted]
      · have all : ∀ stamp ∈ first :: rest, cutoff < (stamp : ℚ) := by
          intro stamp member
          rcases List.mem_cons.mp member with rfl | member
          · exact not_le.mp expired
          · exact (not_le.mp expired).trans_le (NNRat.coe_le_coe.mpr (least stamp member))
        simp only [List.dropWhile_cons, expired, decide_false, Bool.false_eq_true, ↓reduceIte]
        exact (List.filter_eq_self.mpr fun stamp member => decide_eq_true (all stamp member)).symm

section Step

variable {past : List (Hit κ)} {hit : Hit κ} {memory : InMemoryStore κ} {redis : RedisStore κ}

/-- A timestamp that is not popped is one of a hit that nothing has taken out. -/
theorem Mirrors.mem_trimmed (mirrors : Mirrors past memory redis) {stamp : ℚ≥0} :
    stamp ∈ memory.trimmed hit ↔
      ∃ earlier between, earlier :: between <:+ past ∧ earlier.key = hit.key ∧
        earlier.now = stamp ∧ ∀ later ∈ between ++ [hit], ¬ later.Drops earlier := by
  rw [InMemoryStore.trimmed, dropWhile_eq_filter (mirrors.sorted hit.key), List.mem_filter,
    mirrors.mem_iff, decide_eq_true_eq]
  constructor
  · rintro ⟨⟨earlier, between, part, key, rfl, stands⟩, above⟩
    refine ⟨earlier, between, part, key, rfl, fun later member => ?_⟩
    rcases List.mem_append.mp member with member | member
    · exact stands later member
    · cases List.mem_singleton.mp member
      exact fun drops => not_lt.mpr drops.2 above
  · rintro ⟨earlier, between, part, key, rfl, stands⟩
    refine ⟨⟨earlier, between, part, key, rfl, fun later member =>
      stands later (List.mem_append_left _ member)⟩, ?_⟩
    exact not_le.mp fun below =>
      stands hit (List.mem_append_right _ (List.mem_singleton_self hit)) ⟨key, below⟩

theorem Mirrors.trimmed_sorted (mirrors : Mirrors past memory redis) :
    (memory.trimmed hit).Pairwise (· ≤ ·) :=
  (mirrors.sorted hit.key).sublist (List.dropWhile_sublist _)

/-- Trimming the entries of a deque trims the deque. -/
theorem entries_zremrangebyscore {bucket : List ℚ≥0} {set : SortedSet ℚ String} {cutoff : ℚ}
    (sorted : bucket.Pairwise (· ≤ ·)) (same : set.entries = bucket.map entryOf) :
    (set.zremrangebyscore 0 cutoff).entries =
      (bucket.dropWhile fun stamp : ℚ≥0 => (stamp : ℚ) ≤ cutoff).map entryOf := by
  rw [dropWhile_eq_filter sorted]
  change set.entries.filter _ = _
  rw [same, List.filter_map]
  congr 1
  apply List.filter_congr
  intro stamp _
  by_cases below : (stamp : ℚ) ≤ cutoff
  · simp only [Function.comp_apply, entryOf, NNRat.coe_nonneg, below, not_lt.mpr below, decide_true,
      decide_false, Bool.and_self, Bool.not_true]
  · simp only [Function.comp_apply, entryOf, NNRat.coe_nonneg, below, not_le.mp below, decide_true,
      decide_false, Bool.and_false, Bool.not_false]

/-- The hit of a key that comes last before a hit. -/
theorem last_unique {first second : Hit κ} {between between' : List (Hit κ)}
    (part : first :: between <:+ past) (part' : second :: between' <:+ past)
    (same : first.key = second.key) (last : ∀ other ∈ between, other.key ≠ first.key)
    (last' : ∀ other ∈ between', other.key ≠ second.key) : first = second := by
  rcases List.suffix_or_suffix_of_suffix part part' with inside | inside
  · rcases List.suffix_cons_iff.mp inside with whole | inside
    · exact (List.cons.inj whole).1
    · exact absurd same (last' first (inside.mem List.mem_cons_self))
  · rcases List.suffix_cons_iff.mp inside with whole | inside
    · exact (List.cons.inj whole).1.symm
    · exact absurd same.symm (last second (inside.mem List.mem_cons_self))

/-- The trim leaves in the sorted set what it leaves in the deque, or nothing when the key
has expired. -/
theorem Mirrors.entries_trimmed (hit : Hit κ) (mirrors : Mirrors past memory redis) :
    ((∀ other ∈ past, other.key ≠ hit.key) ∧ (redis.trimmed hit).entries = []) ∨
      ∃ last between, last :: between <:+ past ∧ last.key = hit.key ∧
        (∀ other ∈ between, other.key ≠ hit.key) ∧
        (redis.trimmed hit).entries =
          if last.KeepsUntil hit then (memory.trimmed hit).map entryOf else [] := by
  rcases mirrors.held hit.key with ⟨none, absent⟩ | ⟨last, between, set, part, key, others, same, held⟩
  · refine Or.inl ⟨none, ?_⟩
    rw [RedisStore.trimmed, absent]
    rfl
  · refine Or.inr ⟨last, between, part, key, others, ?_⟩
    rw [RedisStore.trimmed, held, live_expire]
    by_cases keeps : last.KeepsUntil hit
    · rw [if_pos keeps, if_pos keeps]
      exact entries_zremrangebyscore (mirrors.sorted hit.key) same
    · rw [if_neg keeps, if_neg keeps]
      rfl

theorem Mirrors.entries_trimmed_cases (mirrors : Mirrors past memory redis) :
    (redis.trimmed hit).entries = (memory.trimmed hit).map entryOf ∨
      (redis.trimmed hit).entries = [] := by
  rcases mirrors.entries_trimmed hit with ⟨-, empty⟩ | ⟨last, between, -, -, -, left⟩
  · exact Or.inr empty
  · rw [left]
    split
    · exact Or.inl rfl
    · exact Or.inr rfl

/-- Without a timestamp of its microsecond, the hit's entry comes last. -/
theorem entries_added (same : (redis.trimmed hit).entries = (memory.trimmed hit).map entryOf)
    (bounded : ∀ stamp ∈ memory.trimmed hit, stamp ≤ hit.now)
    (apart : ∀ stamp ∈ memory.trimmed hit, microseconds stamp ≠ microseconds hit.now) :
    ((redis.trimmed hit).zadd (memberText hit.now) hit.now).entries =
      (memory.trimmed hit ++ [hit.now]).map entryOf := by
  rw [List.map_append, ← same]
  apply entries_zadd_of_lt
  · intro entry held
    obtain ⟨stamp, member, rfl⟩ := List.mem_map.mp (same ▸ held)
    have different : stamp ≠ hit.now := fun equal => apart stamp member (equal ▸ rfl)
    exact NNRat.coe_lt_coe.mpr (lt_of_le_of_ne (bounded stamp member) different)
  · intro entry held
    obtain ⟨stamp, member, rfl⟩ := List.mem_map.mp (same ▸ held)
    exact fun equal => apart stamp member (memberText_inj.mp equal)

/-- The answers are the same when the trims leave the same and the hit has a microsecond of
its own. -/
theorem answer_eq_iff [DecidableEq κ]
    (trim : (redis.trimmed hit).entries = (memory.trimmed hit).map entryOf ∨
      (redis.trimmed hit).entries = [])
    (bounded : ∀ stamp ∈ memory.trimmed hit, stamp ≤ hit.now) :
    (memory.hit hit).1 = (redis.hit hit).1 ↔
      (redis.trimmed hit).entries = (memory.trimmed hit).map entryOf ∧
        ∀ stamp ∈ memory.trimmed hit, microseconds stamp ≠ microseconds hit.now := by
  constructor
  · intro answer
    have count : (memory.trimmed hit).length + 1 =
        ((redis.trimmed hit).zadd (memberText hit.now) hit.now).zcard := by
      simpa only [InMemoryStore.hit, RedisStore.hit, List.length_append, List.length_singleton] using
        congrArg Answer.count answer
    have same : (redis.trimmed hit).entries = (memory.trimmed hit).map entryOf := by
      rcases trim with same | empty
      · exact same
      · -- one entry is added to none, so nothing is left in the deque either
        have added : ((redis.trimmed hit).zadd (memberText hit.now) hit.now).zcard = 1 := by
          rw [SortedSet.zcard, entries_zadd_of_lt (by simp [empty]) (by simp [empty]), empty]
          rfl
        have none : memory.trimmed hit = [] := List.length_eq_zero_iff.mp (by omega)
        rw [empty, none]
        rfl
    refine ⟨same, fun stamp member shared => ?_⟩
    have held : ∃ entry ∈ (redis.trimmed hit).entries, entry.member = memberText hit.now :=
      ⟨entryOf stamp, same ▸ List.mem_map_of_mem member, memberText_inj.mpr shared⟩
    have fewer := zcard_zadd_le_of_mem (hit.now : ℚ) held
    rw [← count, SortedSet.zcard, same, List.length_map] at fewer
    omega
  · rintro ⟨same, apart⟩
    have added := entries_added same bounded apart
    have first : ((redis.trimmed hit).zadd (memberText hit.now) hit.now).first? =
        some (entryOf ((memory.trimmed hit ++ [hit.now]).headD hit.now)) := by
      rw [SortedSet.first?, added, List.head?_map]
      cases memory.trimmed hit <;> rfl
    simp only [InMemoryStore.hit, RedisStore.hit, SortedSet.zcard, added, first, List.length_map,
      Option.map_some, Option.getD_some, entryOf]

/-- When something of the key is in the window, its last hit is. -/
theorem Mirrors.last_stands (mirrors : Mirrors past memory redis) (clocked : Clocked past)
    {last : Hit κ} {between : List (Hit κ)} (part : last :: between <:+ past)
    (key : last.key = hit.key) (others : ∀ other ∈ between, other.key ≠ hit.key) {stamp : ℚ≥0}
    (member : stamp ∈ memory.trimmed hit) : ∀ later ∈ between ++ [hit], ¬ later.Drops last := by
  obtain ⟨earlier, behind, part', key', rfl, stands⟩ := mirrors.mem_trimmed.mp member
  have ordered : earlier.now ≤ last.now := by
    rcases List.suffix_or_suffix_of_suffix part part' with inside | inside
    · rcases List.suffix_cons_iff.mp inside with whole | inside
      · rw [(List.cons.inj whole).1]
      · have pairs : (earlier :: behind).Pairwise fun first second => first.now ≤ second.now :=
          clocked.sublist part'.sublist
        exact List.rel_of_pairwise_cons pairs (inside.mem List.mem_cons_self)
    · rcases List.suffix_cons_iff.mp inside with whole | inside
      · rw [(List.cons.inj whole).1]
      · exact absurd key' (others earlier (inside.mem List.mem_cons_self))
  intro later place drops
  rcases List.mem_append.mp place with place | place
  · exact others later place (drops.1.symm.trans key)
  · cases List.mem_singleton.mp place
    exact stands hit (List.mem_append_right _ place)
      ⟨key', (NNRat.coe_le_coe.mpr ordered).trans drops.2⟩

/-- The hits before a hit are told apart from it when the trims leave the same and it has a
microsecond of its own. -/
theorem Mirrors.toldApart_iff (mirrors : Mirrors past memory redis) (clocked : Clocked past) :
    (∀ earlier between, earlier :: between <:+ past → ToldApart earlier between hit) ↔
      (redis.trimmed hit).entries = (memory.trimmed hit).map entryOf ∧
        ∀ stamp ∈ memory.trimmed hit, microseconds stamp ≠ microseconds hit.now := by
  constructor
  · intro told
    refine ⟨?_, fun stamp member => ?_⟩
    · rcases mirrors.entries_trimmed hit with
        ⟨none, empty⟩ | ⟨last, between, part, key, others, left⟩
      · have nothing : memory.trimmed hit = [] := by
          refine List.eq_nil_iff_forall_not_mem.mpr fun stamp member => ?_
          obtain ⟨earlier, between, part, key, -⟩ := mirrors.mem_trimmed.mp member
          exact none earlier (part.mem List.mem_cons_self) key
        rw [empty, nothing]
        rfl
      · rw [left]
        split
        · rfl
        · next expired =>
            have nothing : memory.trimmed hit = [] := by
              refine List.eq_nil_iff_forall_not_mem.mpr fun stamp member => expired ?_
              have stands := mirrors.last_stands clocked part key others member
              exact (told last between part key stands).2 others
            rw [nothing]
            rfl
    · obtain ⟨earlier, between, part, key, rfl, stands⟩ := mirrors.mem_trimmed.mp member
      exact (told earlier between part key stands).1
  · rintro ⟨same, apart⟩ earlier between part key stands
    have member := mirrors.mem_trimmed.mpr ⟨earlier, between, part, key, rfl, stands⟩
    refine ⟨apart earlier.now member, fun others => ?_⟩
    rcases mirrors.entries_trimmed hit with
      ⟨none, -⟩ | ⟨last, between', part', key', others', left⟩
    · exact absurd key (none earlier (part.mem List.mem_cons_self))
    · have unique : earlier = last :=
        last_unique part part' (key.trans key'.symm) (key ▸ others) (key' ▸ others')
      rw [unique]
      by_contra expired
      rw [if_neg expired, same, List.map_eq_nil_iff] at left
      rw [left] at member
      exact List.not_mem_nil member

section Stores

variable [DecidableEq κ]

@[simp] theorem InMemoryStore.hit_self :
    (memory.hit hit).2 hit.key = memory.trimmed hit ++ [hit.now] :=
  Function.update_self hit.key _ memory

@[simp] theorem InMemoryStore.hit_of_ne {key : κ} (other : key ≠ hit.key) :
    (memory.hit hit).2 key = memory key :=
  Function.update_of_ne other _ memory

@[simp] theorem RedisStore.hit_self :
    (redis.hit hit).2 hit.key =
      Volatile.expire ((redis.trimmed hit).zadd (memberText hit.now) hit.now) hit.now
        (hit.windowSeconds + 1) :=
  Function.update_self hit.key _ redis

@[simp] theorem RedisStore.hit_of_ne {key : κ} (other : key ≠ hit.key) :
    (redis.hit hit).2 key = redis key :=
  Function.update_of_ne other _ redis

/-- The deques stand for the hits that nothing has taken out, after a hit as before. -/
theorem Mirrors.mem_hit_iff (mirrors : Mirrors past memory redis) (key : κ) (stamp : ℚ≥0) :
    stamp ∈ (memory.hit hit).2 key ↔
      ∃ earlier between, earlier :: between <:+ past ++ [hit] ∧ earlier.key = key ∧
        earlier.now = stamp ∧ ∀ later ∈ between, ¬ later.Drops earlier := by
  have longer {earlier : Hit κ} {between : List (Hit κ)} (part : earlier :: between <:+ past) :
      earlier :: (between ++ [hit]) <:+ past ++ [hit] :=
    cons_suffix_concat_iff.mpr (Or.inr ⟨between, rfl, part⟩)
  by_cases this : key = hit.key
  · subst this
    rw [InMemoryStore.hit_self, List.mem_append, List.mem_singleton, mirrors.mem_trimmed]
    constructor
    · rintro (⟨earlier, between, part, key, now, stands⟩ | rfl)
      · exact ⟨earlier, between ++ [hit], longer part, key, now, stands⟩
      · exact ⟨hit, [], cons_suffix_concat_iff.mpr (Or.inl ⟨rfl, rfl⟩), rfl, rfl,
          fun later place => absurd place List.not_mem_nil⟩
    · rintro ⟨earlier, between, part, key, now, stands⟩
      rcases cons_suffix_concat_iff.mp part with ⟨rfl, rfl⟩ | ⟨front, rfl, inside⟩
      · exact Or.inr now.symm
      · exact Or.inl ⟨earlier, front, inside, key, now, stands⟩
  · rw [InMemoryStore.hit_of_ne this, mirrors.mem_iff]
    constructor
    · rintro ⟨earlier, between, part, rfl, now, stands⟩
      refine ⟨earlier, between ++ [hit], longer part, rfl, now, fun later place => ?_⟩
      rcases List.mem_append.mp place with place | place
      · exact stands later place
      · cases List.mem_singleton.mp place
        exact fun drops => this drops.1
    · rintro ⟨earlier, between, part, rfl, now, stands⟩
      rcases cons_suffix_concat_iff.mp part with ⟨rfl, rfl⟩ | ⟨front, rfl, inside⟩
      · exact absurd rfl this
      · exact ⟨earlier, front, inside, rfl, now, fun later place =>
          stands later (List.mem_append_left _ place)⟩

theorem Mirrors.sorted_hit (mirrors : Mirrors past memory redis)
    (bounded : ∀ stamp ∈ memory.trimmed hit, stamp ≤ hit.now) (key : κ) :
    ((memory.hit hit).2 key).Pairwise (· ≤ ·) := by
  by_cases this : key = hit.key
  · subst this
    rw [InMemoryStore.hit_self]
    refine List.pairwise_append.mpr ⟨mirrors.trimmed_sorted, List.pairwise_singleton _ _, ?_⟩
    intro stamp member last place
    rw [List.mem_singleton.mp place]
    exact bounded stamp member
  · rw [InMemoryStore.hit_of_ne this]
    exact mirrors.sorted key

/-- A hit on which the stores agree keeps them in step. -/
theorem Mirrors.step (mirrors : Mirrors past memory redis)
    (bounded : ∀ stamp ∈ memory.trimmed hit, stamp ≤ hit.now)
    (same : (redis.trimmed hit).entries = (memory.trimmed hit).map entryOf)
    (apart : ∀ stamp ∈ memory.trimmed hit, microseconds stamp ≠ microseconds hit.now) :
    Mirrors (past ++ [hit]) (memory.hit hit).2 (redis.hit hit).2 where
  mem_iff := mirrors.mem_hit_iff
  sorted := mirrors.sorted_hit bounded
  held key := by
    by_cases this : key = hit.key
    · subst this
      refine Or.inr ⟨hit, [], (redis.trimmed hit).zadd (memberText hit.now) hit.now,
        cons_suffix_concat_iff.mpr (Or.inl ⟨rfl, rfl⟩), rfl,
        fun other place => absurd place List.not_mem_nil, ?_, ?_⟩
      · rw [InMemoryStore.hit_self]
        exact entries_added same bounded apart
      · exact RedisStore.hit_self
    · rw [InMemoryStore.hit_of_ne this, RedisStore.hit_of_ne this]
      rcases mirrors.held key with ⟨none, absent⟩ | ⟨last, between, set, part, key', others, held⟩
      · refine Or.inl ⟨fun other place => ?_, absent⟩
        rcases List.mem_append.mp place with place | place
        · exact none other place
        · exact List.mem_singleton.mp place ▸ Ne.symm this
      · refine Or.inr ⟨last, between ++ [hit], set,
          cons_suffix_concat_iff.mpr (Or.inr ⟨between, rfl, part⟩), key', fun other place => ?_, held⟩
        rcases List.mem_append.mp place with place | place
        · exact others other place
        · exact List.mem_singleton.mp place ▸ Ne.symm this

end Stores

end Step

/-! ## Equivalence of the stores -/

section Run

variable {σ : Type*} {hit : σ → Hit κ → Answer × σ} {store : σ} {past : List (Hit κ)}
  {call : Hit κ}

theorem after_concat : after hit store (past ++ [call]) = (hit (after hit store past) call).2 := by
  rw [after, List.foldl_append]
  rfl

theorem answers_concat :
    answers hit store (past ++ [call]) =
      answers hit store past ++ [(hit (after hit store past) call).1] := by
  induction past generalizing store with
  | nil => rfl
  | cons first rest ih =>
      rw [List.cons_append, answers, ih]
      rfl

/-- Two stores answer a run alike when they do up to its last hit and on that hit. -/
theorem answers_concat_eq_iff {τ : Type*} {other : τ → Hit κ → Answer × τ} {start : τ} :
    answers hit store (past ++ [call]) = answers other start (past ++ [call]) ↔
      answers hit store past = answers other start past ∧
        (hit (after hit store past) call).1 = (other (after other start past) call).1 := by
  rw [answers_concat, answers_concat]
  constructor
  · intro same
    obtain ⟨front, last⟩ := List.append_inj' same rfl
    exact ⟨front, List.singleton_inj.mp last⟩
  · rintro ⟨front, last⟩
    rw [front, last]

end Run

variable [DecidableEq κ]

/-- The stores agree on a run of hits that are told apart, and hold the same after it; they
disagree on every other run. -/
theorem answers_eq_iff_and_mirrors {hits : List (Hit κ)} (clocked : Clocked hits) :
    (answers InMemoryStore.hit (fun _ => []) hits = answers RedisStore.hit RedisStore.initial hits ↔
        Separated hits) ∧
      (Separated hits → Mirrors hits (after InMemoryStore.hit (fun _ => []) hits)
        (after RedisStore.hit RedisStore.initial hits)) := by
  induction hits using List.reverseRecOn with
  | nil => exact ⟨iff_of_true rfl separated_nil, fun _ => Mirrors.initial⟩
  | append_singleton past hit ih =>
      obtain ⟨clockedPast, -, before⟩ := List.pairwise_append.mp clocked
      obtain ⟨agree, mirrored⟩ := ih clockedPast
      rw [answers_concat_eq_iff, agree, separated_concat, after_concat, after_concat]
      have bounded (separated : Separated past) :
          ∀ stamp ∈ (after InMemoryStore.hit (fun _ => []) past).trimmed hit, stamp ≤ hit.now := by
        intro stamp member
        obtain ⟨earlier, between, part, -, rfl, -⟩ := (mirrored separated).mem_trimmed.mp member
        exact before earlier (part.mem List.mem_cons_self) hit (List.mem_singleton_self hit)
      constructor
      · refine and_congr_right fun separated => ?_
        rw [(mirrored separated).toldApart_iff clockedPast]
        exact answer_eq_iff ((mirrored separated).entries_trimmed_cases) (bounded separated)
      · rintro ⟨separated, told⟩
        obtain ⟨same, apart⟩ := ((mirrored separated).toldApart_iff clockedPast).mp told
        exact (mirrored separated).step (bounded separated) same apart

/-- **The stores answer every hit alike exactly when the hits of each key are told apart.** -/
theorem answers_eq_iff_separated (hits : List (Hit κ)) (clocked : Clocked hits) :
    answers InMemoryStore.hit (fun _ => []) hits = answers RedisStore.hit RedisStore.initial hits ↔
      Separated hits :=
  (answers_eq_iff_and_mirrors clocked).1

/-- Two hits of one address at one reading of the clock. -/
def sameReading : List (Hit String) :=
  [⟨"203.0.113.42", 60, 1700000000⟩, ⟨"203.0.113.42", 60, 1700000000⟩]

instance (hits : List (Hit κ)) : Decidable (Clocked hits) :=
  inferInstanceAs (Decidable (hits.Pairwise _))

theorem answers_eq_iff_separated_sameReading :
    Clocked sameReading ∧
      (answers InMemoryStore.hit (fun _ => []) sameReading =
          answers RedisStore.hit RedisStore.initial sameReading ↔
        Separated sameReading) :=
  ⟨by decide +kernel, answers_eq_iff_separated sameReading (by decide +kernel)⟩

/-- The sorted set holds the second of them as the first. -/
theorem answers_ne_sameReading :
    ¬ ∀ hits : List (Hit String), Clocked hits →
      answers InMemoryStore.hit (fun _ => []) hits =
        answers RedisStore.hit RedisStore.initial hits := by
  intro agree
  have same := agree sameReading (by decide +kernel)
  revert same
  decide +kernel

/-! ## One window for all hits -/

omit [DecidableEq κ] in
/-- A key outlives the window of its last hit. -/
theorem Hit.keepsUntil_of_not_drops {earlier hit : Hit κ} (key : earlier.key = hit.key)
    (window : hit.windowSeconds = earlier.windowSeconds) (positive : 0 < earlier.windowSeconds)
    (stands : ¬ hit.Drops earlier) : earlier.KeepsUntil hit := by
  have above : hit.cutoff < earlier.now := not_le.mp fun below => stands ⟨key, below⟩
  rw [Hit.cutoff, window] at above
  refine ⟨by omega, Int.lt_add_one_iff.mp ?_⟩
  have late : ((mstime hit.now : ℤ) : ℚ) ≤ hit.now * 1000 := Int.floor_le _
  have early : (earlier.now : ℚ) * 1000 < (mstime earlier.now : ℤ) + 1 := Int.lt_floor_add_one _
  have bound : ((mstime hit.now : ℤ) : ℚ) <
      ((mstime earlier.now + (earlier.windowSeconds + 1) * 1000 + 1 : ℤ) : ℚ) := by
    push_cast
    linarith
  exact_mod_cast bound

/-- Hits of one microsecond are closer than a second. -/
theorem now_lt_add_one_of_microseconds_eq {earlier later : ℚ≥0}
    (same : microseconds earlier = microseconds later) : (later : ℚ) < earlier + 1 := by
  have rounded (now : ℚ≥0) : 0 ≤ Rounding.halfEven ((now : ℚ) * 10 ^ 6) :=
    Rounding.halfEven_nonneg (mul_nonneg now.coe_nonneg (by norm_num))
  have equal : Rounding.halfEven ((earlier : ℚ) * 10 ^ 6) =
      Rounding.halfEven ((later : ℚ) * 10 ^ 6) := by
    rw [← Int.toNat_of_nonneg (rounded earlier), ← Int.toNat_of_nonneg (rounded later)]
    exact congrArg Int.ofNat same
  have close := Rounding.sub_le_one_of_halfEven_eq equal
  linarith

omit [DecidableEq κ] in
/-- With one window of at least a second, hits are told apart when no two of a key share a
microsecond. -/
theorem separated_iff_of_window {hits : List (Hit κ)} (clocked : Clocked hits) {window : ℤ}
    (positive : 0 < window) (all : ∀ hit ∈ hits, hit.windowSeconds = window) :
    Separated hits ↔ hits.Pairwise fun earlier later =>
      earlier.key = later.key → microseconds earlier.now ≠ microseconds later.now := by
  induction hits using List.reverseRecOn with
  | nil => exact iff_of_true separated_nil List.Pairwise.nil
  | append_singleton past hit ih =>
      obtain ⟨clockedPast, -, before⟩ := List.pairwise_append.mp clocked
      have windows (earlier : Hit κ) (member : earlier ∈ past) : earlier.windowSeconds = window :=
        all earlier (List.mem_append_left _ member)
      have own : hit.windowSeconds = window := all hit (by simp)
      rw [separated_concat, ih clockedPast windows, List.pairwise_append]
      refine and_congr_right fun _ => ?_
      constructor
      · intro told
        refine ⟨List.pairwise_singleton _ _, ?_⟩
        rintro earlier member later place key same
        cases List.mem_singleton.mp place
        obtain ⟨front, between, rfl⟩ := List.append_of_mem member
        refine (told earlier between (List.suffix_append _ _) key ?_).1 same
        rintro later place ⟨-, dropped⟩
        have upTo : later.now ≤ hit.now ∧ later.windowSeconds = window := by
          rcases List.mem_append.mp place with place | place
          · have present : later ∈ front ++ earlier :: between :=
              List.mem_append_right _ (List.mem_cons_of_mem _ place)
            exact ⟨before later present hit (List.mem_singleton_self hit), windows later present⟩
          · cases List.mem_singleton.mp place
            exact ⟨le_rfl, own⟩
        have close := now_lt_add_one_of_microseconds_eq same
        have ordered : (later.now : ℚ) ≤ hit.now := NNRat.coe_le_coe.mpr upTo.1
        have second : (1 : ℚ) ≤ window := by exact_mod_cast positive
        rw [Hit.cutoff, upTo.2] at dropped
        linarith
      · rintro ⟨-, apart⟩ earlier between part key stands
        have member : earlier ∈ past := part.mem List.mem_cons_self
        refine ⟨apart earlier member hit (List.mem_singleton_self hit) key, fun _ => ?_⟩
        exact Hit.keepsUntil_of_not_drops key (own.trans (windows earlier member).symm)
          ((windows earlier member).symm ▸ positive)
          (stands hit (List.mem_append_right _ (List.mem_singleton_self hit)))

end Panakoes.Middleware
