import Mathlib.Tactic.Linarith
import Panakoes.GpuSpawner.SpawnCallback

/-! # Eviction at the concurrency cap

`_evict_oldest_if_at_cap`, the first calls of the spawn callback: it lists the running
instances and asks for the termination of the oldest ones, in turn and whatever becomes
of each request. The instances it spares are the youngest, and few enough that the one
launched next keeps the total at the cap.
-/

namespace Panakoes.GpuSpawner

namespace RunningInstance

/-- The first instance was launched before the second. One whose launch time is unknown
counts as older than any with a launch time. -/
def Older (one other : RunningInstance) : Prop := one.Before other ∧ ¬ other.Before one

instance : DecidableRel Older := fun _ _ => inferInstanceAs (Decidable (_ ∧ _))

theorem before_total (one other : RunningInstance) : one.Before other ∨ other.Before one := by
  cases first : one.launchedAt with
  | none =>
      apply Or.inl
      simp only [Before, first]
  | some time =>
      cases second : other.launchedAt with
      | none =>
          apply Or.inr
          simp only [Before, second]
      | some later =>
          simp only [Before, first, second]
          exact le_total time later

theorem Before.trans {one other third : RunningInstance} (earlier : one.Before other)
    (later : other.Before third) : one.Before third := by
  cases first : one.launchedAt with
  | none => simp only [Before, first]
  | some time =>
      cases second : other.launchedAt with
      | none => simp only [Before, first, second] at earlier
      | some middle =>
          cases last : third.launchedAt with
          | none => simp only [Before, second, last] at later
          | some final =>
              simp only [Before, first, second, last] at earlier later ⊢
              exact le_trans earlier later

instance : Std.Total Before := ⟨before_total⟩

instance : IsTrans RunningInstance Before := ⟨fun _ _ _ earlier later => earlier.trans later⟩

end RunningInstance

/-! ## The instances chosen -/

/-- How many instances have to go to leave room for one more. -/
def excess (maxConcurrentSessions : ℤ) (running : List RunningInstance) : ℕ :=
  (running.length - maxConcurrentSessions + 1).toNat

/-- The instances in the order in which they have to go. -/
def oldestFirst (running : List RunningInstance) : List RunningInstance :=
  running.insertionSort RunningInstance.Before

variable {cap : ℤ} {running : List RunningInstance}

theorem evictionVictims_eq :
    evictionVictims cap running =
      ((oldestFirst running).take (excess cap running)).map RunningInstance.id := by
  unfold evictionVictims
  split
  · rename_i below
    have enough : excess cap running = 0 := by
      unfold excess
      omega
    rw [enough, List.take_zero, List.map_nil]
  · rfl

theorem length_oldestFirst : (oldestFirst running).length = running.length :=
  List.length_insertionSort _ _

/-- Nothing that is left is older than what is taken. -/
theorem not_older_of_drop {count : ℕ} {survivor victim : RunningInstance}
    (spared : survivor ∈ (oldestFirst running).drop count)
    (taken : victim ∈ (oldestFirst running).take count) : ¬ survivor.Older victim := by
  have sorted : ((oldestFirst running).take count ++
      (oldestFirst running).drop count).Pairwise RunningInstance.Before := by
    rw [List.take_append_drop]
    exact List.pairwise_insertionSort _ _
  obtain ⟨_, _, across⟩ := List.pairwise_append.mp sorted
  intro older
  exact older.2 (across victim taken survivor spared)

/-! ## The calls made -/

/-- The instance that the next call asks to terminate. -/
def SpawnPc.victim? : SpawnPc → Option ℕ
  | .terminating (victim :: _) => some victim
  | _ => none

/-- What a row of calls comes to: the instances that the callback asked to terminate, those
that were terminated, and the call it is about to make. -/
structure Evictions where
  pc : SpawnPc
  asked : List ℕ
  gone : List ℕ

/-- Answer one call after the other. -/
def evictions (cap : ℤ) (call : ℕ) (intent : SpawnIntent) :
    PoolTable → SessionTable → SpawnPc → List SpawnInput → Option Evictions
  | _, _, pc, [] => some ⟨pc, [], []⟩
  | pool, sessions, pc, input :: rest =>
      (spawnStep cap call intent pool sessions pc input).bind fun outcome =>
        (evictions cap call intent outcome.pool outcome.sessions outcome.pc rest).map fun later =>
          ⟨later.pc, pc.victim?.toList ++ later.asked, outcome.evicted.toList ++ later.gone⟩

/-- The victims whose termination was answered with success. -/
def terminatedOf (victims : List ℕ) (answers : List Bool) : List ℕ :=
  (victims.zip answers).filterMap fun entry => if entry.2 then some entry.1 else none

theorem terminatedOf_succeeding {victims : List ℕ} {answers : List Bool}
    (every : answers.length = victims.length) (succeed : ∀ answer ∈ answers, answer = true) :
    terminatedOf victims answers = victims := by
  induction victims generalizing answers with
  | nil => rfl
  | cons victim rest ih =>
      cases answers with
      | nil => cases every
      | cons answer later =>
          obtain ⟨now, afterwards⟩ := List.forall_mem_cons.mp succeed
          subst now
          have remaining := ih (Nat.succ.inj every) afterwards
          rw [terminatedOf] at remaining ⊢
          rw [List.zip_cons_cons, List.filterMap_cons]
          simp only [↓reduceIte, remaining]

variable {call : ℕ} {intent : SpawnIntent} {pool : PoolTable} {sessions : SessionTable}

/-- The loop over the victims asks for each of them, however it is answered. -/
theorem evictions_nextVictim {victims : List ℕ} {answers : List Bool}
    (every : answers.length = victims.length) :
    evictions cap call intent pool sessions (nextVictim victims)
        (answers.map SpawnInput.terminated) =
      some ⟨.claiming .scanning, victims, terminatedOf victims answers⟩ := by
  induction victims generalizing answers with
  | nil =>
      rw [List.eq_nil_of_length_eq_zero every]
      rfl
  | cons victim rest ih =>
      cases answers with
      | nil => cases every
      | cons answer later =>
          have remaining := ih (Nat.succ.inj every)
          rw [List.map_cons, nextVictim, evictions, spawnStep, Option.bind_some, remaining,
            Option.map_some]
          · cases answer <;> rfl
          · intro same
            cases same

/-- **Eviction at the cap.** However many instances run, the callback picks as many as exceed
the cap less one, none of them younger than an instance it spares, and asks for the
termination of each of them, whether or not earlier requests succeed. When all succeed, the
instances that survive and the one launched next stay within the cap. -/
theorem evictOldestIfAtCap_spec (cap : ℤ) (call : ℕ) (intent : SpawnIntent) (pool : PoolTable)
    (sessions : SessionTable) (running : List RunningInstance) (positive : 0 < cap) :
    ∃ victims spared : List RunningInstance,
      running.Perm (victims ++ spared) ∧
      (victims.length : ℤ) = max 0 (running.length - cap + 1) ∧
      (∀ survivor ∈ spared, ∀ victim ∈ victims, ¬ survivor.Older victim) ∧
      ∀ answers : List Bool, answers.length = victims.length →
        ∃ done, evictions cap call intent pool sessions (spawnStart cap)
            (.listed (some running) :: answers.map SpawnInput.terminated) = some done ∧
          done.pc = .claiming .scanning ∧ done.asked = victims.map RunningInstance.id ∧
          ((∀ answer ∈ answers, answer = true) → done.gone = done.asked ∧
            ((running.filter fun survivor => survivor.id ∉ done.gone).length : ℤ) ≤ cap - 1 ∧
            ((running.filter fun survivor => survivor.id ∉ done.gone).length : ℤ) + 1 ≤ cap) := by
  have parts : running.Perm ((oldestFirst running).take (excess cap running) ++
      (oldestFirst running).drop (excess cap running)) := by
    rw [List.take_append_drop]
    exact (List.perm_insertionSort _ _).symm
  have few : excess cap running ≤ running.length := by
    unfold excess
    omega
  have counted : ((oldestFirst running).take (excess cap running)).length =
      excess cap running := by
    rw [List.length_take, length_oldestFirst, Nat.min_eq_left few]
  refine ⟨_, _, parts, ?_, fun _ spared _ taken => not_older_of_drop spared taken, ?_⟩
  · rw [counted]
    unfold excess
    omega
  · intro answers every
    have asked : answers.length = (evictionVictims cap running).length := by
      rw [evictionVictims_eq, List.length_map, every]
    refine ⟨⟨.claiming .scanning, evictionVictims cap running,
      terminatedOf (evictionVictims cap running) answers⟩, ?_, rfl, evictionVictims_eq, ?_⟩
    · have listing : spawnStart cap = .listing := if_neg (not_le.mpr positive)
      rw [listing, evictions, spawnStep, Option.bind_some, evictions_nextVictim asked]
      rfl
    · intro succeed
      have gone := terminatedOf_succeeding asked succeed
      have survivors : (running.filter fun survivor =>
          survivor.id ∉ evictionVictims cap running).length ≤
            running.length - excess cap running := by
        rw [(parts.filter _).length_eq, List.filter_append, List.length_append, evictionVictims_eq,
          List.filter_eq_nil_iff.mpr, List.length_nil, Nat.zero_add]
        · apply (List.length_filter_le _ _).trans
          rw [List.length_drop, length_oldestFirst]
        · intro victim taken
          simp only [decide_not, Bool.not_eq_true', decide_eq_false_iff_not, not_not]
          exact List.mem_map_of_mem taken
      have room : ((running.length - excess cap running : ℕ) : ℤ) ≤ cap - 1 := by
        unfold excess
        omega
      rw [gone]
      refine ⟨rfl, ?_, ?_⟩ <;> linarith [Int.ofNat_le.mpr survivors]

/-- Four instances at a cap of two, one of them with an unknown launch time. -/
def sampleInstances : List RunningInstance :=
  [⟨1, some "a", some 30⟩, ⟨2, some "b", some 10⟩, ⟨3, none, none⟩, ⟨4, some "d", some 20⟩]

example : evictionVictims 2 sampleInstances = [3, 2, 4] := by decide

/-- The specification on the four instances. -/
theorem evictOldestIfAtCap_sample :
    0 < (2 : ℤ) ∧ ∃ victims spared : List RunningInstance,
      sampleInstances.Perm (victims ++ spared) ∧ (victims.length : ℤ) = 3 ∧
        ∀ survivor ∈ spared, ∀ victim ∈ victims, ¬ survivor.Older victim := by
  obtain ⟨victims, spared, parts, count, youngest, -⟩ :=
    evictOldestIfAtCap_spec 2 0 ⟨"session", "user", "tenant"⟩ ∅ ∅ sampleInstances (by decide)
  exact ⟨by decide, victims, spared, parts, count, youngest⟩

end Panakoes.GpuSpawner
