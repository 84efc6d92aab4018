import Panakoes.PrMonitor.OpenChecks

/-! # One event for each episode

A check of an open pull request that fails, or is pending for too long, and an open pull request
without checks are reported once for every stretch of successful polls that show it. The clock of a
stalled check starts with the first of these polls.
-/

namespace Panakoes.PrMonitor

open Episodes

/-- At some poll of the run, more than the threshold has passed since its first. -/
def Outlasts (stallMin : ℤ) (key : Key) (run : List Shot) : Prop :=
  ∃ first ∈ run.head?, ∃ shot ∈ run,
    stallMin < (shot.clock.now key - first.clock.nowIso key : ℚ) / 60

/-- Every episode is reported once, and one from before the start is not. -/
structure FiresOnce (stallMin : ℤ) (seed : List RawPr) (shots : List Shot) : Prop where
  ciFail : ∀ key, Once (fun shot : Shot => Fails shot.answer key) (Fails seed key)
    (fun _ => True) (fun shot => shot.events.countP (Event.isCiFail key)) shots
  actionableFail : ∀ key, Once (fun shot : Shot => Fails shot.answer key ∧ HasFix key.2)
    (Fails seed key ∧ HasFix key.2) (fun _ => True)
    (fun shot => shot.events.countP (Event.isActionableFail key)) shots
  stalled : ∀ key, Once (fun shot : Shot => Waits shot.answer key) (Waits seed key)
    (Outlasts stallMin key) (fun shot => shot.events.countP (Event.isStalled key)) shots
  noChecks : ∀ number, Once (fun shot : Shot => NoChecks shot.answer number)
    (NoChecks seed number) (fun _ => True)
    (fun shot => shot.events.countP (Event.isNoChecks number)) shots

/-- All successful polls are undisturbed. The checks that have been pending in all of them, and at
the start, are told by `since`. -/
def Steady (stallMin : ℤ) : (Key → Prop) → MonitorState → List RawPr → List Poll → Prop
  | _, _, _, [] => True
  | since, state, prev, poll :: rest =>
      match poll.answer with
      | none => Steady stallMin since state prev rest
      | some answer =>
          Undisturbed stallMin since state prev poll.clock answer ∧
            Steady stallMin (fun key => since key ∧ Waits answer key)
              (state.after poll.clock stallMin (snapshot answer)) answer rest

/-- The monitor has come this far undisturbed, and goes on so. -/
structure Tracked (stallMin : ℤ) (since : Key → Prop) (state : MonitorState) (prev : List RawPr)
    (polls : List Poll) : Prop where
  kept : Matches state prev
  settled : Regular prev
  steady : Steady stallMin since state prev polls

/-- The answer before the polls to come. -/
def lastAnswer (prev : List RawPr) (before : List Shot) : List RawPr :=
  (before.getLast?.map Shot.answer).getD prev

variable {stallMin : ℤ} {since : Key → Prop} {state : MonitorState} {prev : List RawPr}
  {polls : List Poll} {shot : Shot} {before run rest after : List Shot} {key : Key}

theorem heldBefore_iff (holds : List RawPr → Prop) :
    HeldBefore (fun shot : Shot => holds shot.answer) (holds prev) before ↔
      holds (lastAnswer prev before) := by
  unfold HeldBefore lastAnswer
  cases before.getLast? with
  | none => rfl
  | some shot => rfl

theorem lastAnswer_cons : lastAnswer prev (shot :: before) = lastAnswer shot.answer before := by
  unfold lastAnswer
  cases before using List.reverseRec with
  | nil => rfl
  | append_singleton before last =>
      rw [← List.cons_append, List.getLast?_concat, List.getLast?_concat]
      rfl

/-! ## Along a run -/

/-- The first of the polls to come that is successful. -/
structure NextPoll (stallMin : ℤ) (since : Key → Prop) (state : MonitorState)
    (prev : List RawPr) (shot : Shot) (rest : List Shot) (later : List Poll) : Prop where
  undisturbed : Undisturbed stallMin since state prev shot.clock shot.answer
  events : shot.events = (diffEmit state shot.clock stallMin (snapshot shot.answer)).events
  rest : rest = monitor stallMin (state.after shot.clock stallMin (snapshot shot.answer)) later
  tracked : Tracked stallMin (fun key => since key ∧ Waits shot.answer key)
    (state.after shot.clock stallMin (snapshot shot.answer)) shot.answer later

theorem Tracked.next (tracked : Tracked stallMin since state prev polls)
    (split : monitor stallMin state polls = shot :: rest) :
    ∃ later, NextPoll stallMin since state prev shot rest later := by
  obtain ⟨kept, settled, steady⟩ := tracked
  induction polls with
  | nil => cases split
  | cons poll later ih =>
      unfold monitor at split
      unfold Steady at steady
      split at split
      · rename_i failed
        rw [failed] at steady
        exact ih split steady
      · rename_i answer read
        rw [read] at steady
        obtain ⟨rfl, rfl⟩ := List.cons.inj split
        exact ⟨later, steady.1, rfl, rfl, matches_after, steady.1.regular, steady.2⟩

/-- What comes after some polls is the monitor again. -/
theorem Tracked.suffix (tracked : Tracked stallMin since state prev polls)
    (split : monitor stallMin state polls = before ++ after) :
    ∃ since state later, Tracked stallMin since state (lastAnswer prev before) later ∧
      monitor stallMin state later = after := by
  induction before generalizing since state prev polls with
  | nil => exact ⟨since, state, polls, tracked, split⟩
  | cons shot rest ih =>
      obtain ⟨later, next⟩ := tracked.next split
      rw [lastAnswer_cons]
      exact ih next.tracked next.rest.symm

/-- What is reported where it begins counts its onsets. -/
theorem Tracked.countsOnsets (tracked : Tracked stallMin since state prev polls)
    (holds : List RawPr → Prop) {kind : Event → Bool}
    (step : ∀ {since state prev clock answer}, Matches state prev → Regular prev →
      Undisturbed stallMin since state prev clock answer → holds answer →
      (holds prev →
        (diffEmit state clock stallMin (snapshot answer)).events.countP kind = 0) ∧
      (¬ holds prev →
        (diffEmit state clock stallMin (snapshot answer)).events.countP kind = 1)) :
    CountsOnsets (fun shot : Shot => holds shot.answer) (holds prev)
      (fun shot => shot.events.countP kind) (monitor stallMin state polls) := by
  intro before shot after split here
  obtain ⟨_, _, _, reached, same⟩ := tracked.suffix split
  obtain ⟨_, next⟩ := reached.next same
  dsimp only
  rw [heldBefore_iff holds, next.events]
  exact step reached.kept reached.settled next.undisturbed here

/-! ## Stalled checks -/

/-- A check that is pending and remembered is reported once it is overdue, unless it has been. -/
theorem Tracked.sum_stalls (tracked : Tracked stallMin since state prev polls)
    (split : monitor stallMin state polls = run ++ after)
    (waits : ∀ shot ∈ run, Waits shot.answer key) {first : ℤ}
    (remembered : state.pendingSeen.lookup key = some first) :
    (key ∉ state.stalledEmitted ∧
        (∃ shot ∈ run, stallMin < (shot.clock.now key - first : ℚ) / 60) →
      (run.map fun shot => shot.events.countP (Event.isStalled key)).sum = 1) ∧
    (¬ (key ∉ state.stalledEmitted ∧
        ∃ shot ∈ run, stallMin < (shot.clock.now key - first : ℚ) / 60) →
      (run.map fun shot => shot.events.countP (Event.isStalled key)).sum = 0) := by
  induction run generalizing since state prev polls with
  | nil => simp
  | cons shot rest ih =>
      obtain ⟨here, there⟩ := List.forall_mem_cons.mp waits
      obtain ⟨later, next⟩ := tracked.next split
      obtain ⟨count, marked, kept⟩ := stalls_diffEmit next.undisturbed here
      have seen : state.firstSeen shot.clock key = first := by
        unfold MonitorState.firstSeen
        rw [remembered]
        rfl
      have late : state.Overdue shot.clock stallMin key ↔
          stallMin < (shot.clock.now key - first : ℚ) / 60 := by
        unfold MonitorState.Overdue MonitorState.elapsedMin
        rw [seen]
      obtain ⟨more, no_more⟩ := ih next.tracked next.rest.symm there (seen ▸ kept)
      rw [List.map_cons, List.sum_cons, next.events, count, List.exists_mem_cons_iff, ← late]
      rw [marked] at more no_more
      by_cases reported : key ∈ state.stalledEmitted
      · have nothing := no_more fun both => both.1 (Or.inl reported)
        simp [reported, nothing]
      · by_cases overdue : state.Overdue shot.clock stallMin key
        · have nothing := no_more fun both => both.1 (Or.inr overdue)
          simp [reported, overdue, nothing]
        · simpa [reported, overdue] using And.intro more no_more

/-- An episode of a pending check is reported once it has outlasted the threshold. -/
theorem Tracked.stalled (tracked : Tracked stallMin since state prev polls)
    (split : monitor stallMin state polls = shot :: rest ++ after)
    (waits : ∀ later ∈ shot :: rest, Waits later.answer key) (fresh : ¬ Waits prev key) :
    (Outlasts stallMin key (shot :: rest) →
      ((shot :: rest).map fun shot => shot.events.countP (Event.isStalled key)).sum = 1) ∧
    (¬ Outlasts stallMin key (shot :: rest) →
      ((shot :: rest).map fun shot => shot.events.countP (Event.isStalled key)).sum = 0) := by
  obtain ⟨here, there⟩ := List.forall_mem_cons.mp waits
  obtain ⟨later, next⟩ := tracked.next split
  obtain ⟨count, marked, kept⟩ := stalls_diffEmit next.undisturbed here
  have unmarked : key ∉ state.stalledEmitted := next.undisturbed.unmarked key here fresh
  have seen : state.firstSeen shot.clock key = shot.clock.nowIso key := by
    unfold MonitorState.firstSeen
    cases found : state.pendingSeen.lookup key with
    | none => rfl
    | some first =>
        have pending := tracked.kept.remembered key (Option.isSome_of_eq_some found)
        exact absurd (next.undisturbed.waits key here pending) fresh
  have late : state.Overdue shot.clock stallMin key ↔
      stallMin < (shot.clock.now key - shot.clock.nowIso key : ℚ) / 60 := by
    unfold MonitorState.Overdue MonitorState.elapsedMin
    rw [seen]
  have outlasts : Outlasts stallMin key (shot :: rest) ↔ state.Overdue shot.clock stallMin key ∨
      ∃ later ∈ rest, stallMin < (later.clock.now key - shot.clock.nowIso key : ℚ) / 60 := by
    rw [late]
    simp [Outlasts]
  obtain ⟨more, no_more⟩ := next.tracked.sum_stalls next.rest.symm there (seen ▸ kept)
  rw [List.map_cons, List.sum_cons, next.events, count, outlasts]
  rw [marked] at more no_more
  by_cases overdue : state.Overdue shot.clock stallMin key
  · have nothing := no_more fun both => both.1 (Or.inr overdue)
    simp [unmarked, overdue, nothing]
  · simpa [unmarked, overdue] using And.intro more no_more

/-- One that goes on since the start is not, while it is in time. -/
theorem Tracked.sum_since (tracked : Tracked stallMin since state prev polls)
    (split : monitor stallMin state polls = run ++ after)
    (waits : ∀ shot ∈ run, Waits shot.answer key) (held : since key) :
    (run.map fun shot => shot.events.countP (Event.isStalled key)).sum = 0 := by
  induction run generalizing since state prev polls with
  | nil => rfl
  | cons shot rest ih =>
      obtain ⟨here, there⟩ := List.forall_mem_cons.mp waits
      obtain ⟨later, next⟩ := tracked.next split
      have count := (stalls_diffEmit next.undisturbed here).1
      rw [if_neg fun both => next.undisturbed.inTime key here held both.2] at count
      have more := ih next.tracked next.rest.symm there ⟨held, here⟩
      rw [List.map_cons, List.sum_cons, next.events, count, more]

theorem Tracked.once_stalled (tracked : Tracked stallMin (Waits prev) state prev polls) :
    Once (fun shot : Shot => Waits shot.answer key) (Waits prev key) (Outlasts stallMin key)
      (fun shot => shot.events.countP (Event.isStalled key)) (monitor stallMin state polls) where
  fresh before run after episode begins := by
    obtain ⟨split, nonempty, all, -⟩ := episode
    obtain ⟨_, _, _, reached, same⟩ := tracked.suffix split
    rw [heldBefore_iff fun answer => Waits answer key] at begins
    cases run with
    | nil => exact absurd rfl nonempty
    | cons shot rest => exact reached.stalled same all begins
  seeded run after episode held := tracked.sum_since episode.split episode.all held

/-! ## A single check -/

/-- A pull request with a single check. -/
def single (entry : RollupEntry) : RawPr := ⟨1, "OPEN", some "BLOCKED", "title", [entry]⟩

/-- A check that has failed, as the monitor reads it. -/
def failed : RollupEntry := ⟨"test", "", "fail", "", "", ""⟩

/-- A check run that has ended in failure, as GitHub lists it. -/
def failedRun : RollupEntry := ⟨"test", "", "", "COMPLETED", "FAILURE", ""⟩

theorem shows_single {kind : RollupEntry → Prop} {entry : RollupEntry} :
    Shows kind [single entry] key ↔ (1, entry.checkName) = key ∧ kind entry := by
  simp [Shows, single, Prod.ext_iff, and_assoc]

theorem states_single {entry : RollupEntry} (same : (1, entry.checkName) = key) :
    states [single entry] key = [entry.checkBucket] := by
  subst same
  simp [states, buckets, snapshot, PagedQuery.inOrder, single, RawPr.normalize, RollupEntry.check]

theorem regular_single {entry : RollupEntry} (fails : entry.checkBucket = "fail" ↔ entry.Failing)
    (waits : entry.checkBucket = "pending" ↔ entry.Waiting) : Regular [single entry] where
  numbers := List.nodup_singleton 1
  fails pr member _ given listed := by
    rw [List.mem_singleton.mp member] at listed
    rw [List.mem_singleton.mp listed]
    exact fails
  waits pr member _ given listed := by
    rw [List.mem_singleton.mp member] at listed
    rw [List.mem_singleton.mp listed]
    exact waits
  failsLast key shown := by
    obtain ⟨same, failing⟩ := shows_single.mp shown
    rw [states_single same, fails.mpr failing]
    exact ⟨rfl, rfl⟩
  waitsOnly key shown := by
    obtain ⟨same, waiting⟩ := shows_single.mp shown
    rw [states_single same, waits.mpr waiting]
    intro bucket member
    exact List.mem_singleton.mp member

theorem undisturbed_single {clock : Clock} {entry : RollupEntry} (settled : Regular [single entry])
    (done : ¬ entry.Waiting)
    (before : ∀ key, Fails [single entry] key → "fail" ∈ states prev key → Fails prev key) :
    Undisturbed stallMin since state prev clock [single entry] where
  regular := settled
  fails := before
  waits _ shown := absurd (shows_single.mp shown).2 done
  unmarked _ shown := absurd (shows_single.mp shown).2 done
  inTime _ shown := absurd (shows_single.mp shown).2 done

/-! ## The result -/

/-- **The monitor fires once for each episode** of a run all of whose polls are undisturbed. -/
theorem firesOnce_of_steady (stallMin : ℤ) (seed : List RawPr) (polls : List Poll)
    (settled : Regular seed)
    (steady : Steady stallMin (Waits seed) (.seed (snapshot seed)) seed polls) :
    FiresOnce stallMin seed (monitor stallMin (.seed (snapshot seed)) polls) := by
  have tracked : Tracked stallMin (Waits seed) (.seed (snapshot seed)) seed polls :=
    ⟨matches_seed, settled, steady⟩
  refine ⟨fun key => ?_, fun key => ?_, fun key => tracked.once_stalled, fun number => ?_⟩
  · apply once_of_countsOnsets
    exact tracked.countsOnsets (fun answer => Fails answer key) ciFails_diffEmit
  · apply once_of_countsOnsets
    apply tracked.countsOnsets fun answer => Fails answer key ∧ HasFix key.2
    intro _ _ _ _ _ kept settled undisturbed both
    obtain ⟨goesOn, begins⟩ := actionableFails_diffEmit kept settled undisturbed both.1 both.2
    exact ⟨fun before => goesOn before.1, fun never => begins fun failed => never ⟨failed, both.2⟩⟩
  · apply once_of_countsOnsets
    exact tracked.countsOnsets (fun answer => NoChecks answer number)
      fun kept _ undisturbed => noChecks_diffEmit kept undisturbed

/-- A check that fails before and after a poll that could not be read. -/
theorem firesOnce_failed : FiresOnce 15 [] (monitor 15 (.seed (snapshot []))
    [⟨some [single failed], ⟨fun _ => 0, fun _ => 0⟩⟩, ⟨none, ⟨fun _ => 30, fun _ => 30⟩⟩,
      ⟨some [single failed], ⟨fun _ => 60, fun _ => 60⟩⟩]) := by
  have done : ¬ failed.Waiting := by simp [RollupEntry.Waiting, failed]
  have agreed : failed.checkBucket = "fail" := rfl
  have settled : Regular [single failed] := by
    apply regular_single
    · exact iff_of_true agreed (Or.inl rfl)
    · exact iff_of_false (by simp [agreed]) done
  have empty : Regular [] := ⟨List.nodup_nil, by simp, by simp, by simp [Shows], by simp [Shows]⟩
  apply firesOnce_of_steady 15 [] _ empty
  refine ⟨undisturbed_single settled done ?_, undisturbed_single settled done ?_, trivial⟩
  · intro _ _ found
    cases found
  · exact fun _ shown _ => shown

/-- A check run that has failed is not reported as failing. -/
theorem not_firesOnce_failedRun : ¬ ∀ (stallMin : ℤ) (seed : List RawPr) (polls : List Poll),
    FiresOnce stallMin seed (monitor stallMin (.seed (snapshot seed)) polls) := by
  intro all
  have once := (all 15 [] [⟨some [single failedRun], ⟨fun _ => 0, fun _ => 0⟩⟩]).ciFail (1, "test")
  have failing : Fails [single failedRun] (1, "test") :=
    shows_single.mpr ⟨rfl, Or.inr ⟨rfl, List.mem_cons_self⟩⟩
  have bucket : failedRun.checkBucket = "failure" := by decide +kernel
  have only : states [single failedRun] (1, "test") = [failedRun.checkBucket] := states_single rfl
  have passes : "fail" ∉ states [single failedRun] (1, "test") := by
    rw [only, bucket]
    simp
  have episode := once.fresh [] [_] [] ⟨rfl, List.cons_ne_nil _ _,
    fun shot member => List.mem_singleton.mp member ▸ failing, by simp⟩
  have reported := (episode (by simp [HeldBefore, Shows])).1 trivial
  have silent := ciFails_diffEmit_of_not_mem (.seed (snapshot [])) ⟨fun _ => 0, fun _ => 0⟩ 15
    passes
  rw [List.map_singleton, List.sum_singleton, silent] at reported
  cases reported

end Panakoes.PrMonitor
