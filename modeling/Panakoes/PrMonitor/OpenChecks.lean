import Panakoes.Foundation.Episodes
import Panakoes.PrMonitor.CheckView

/-! # Checks of open pull requests

What GitHub says of a check of an open pull request, and when the monitor agrees with it. What is
carried from poll to poll then tells what the last answer showed.
-/

namespace Panakoes.PrMonitor

/-! ## What GitHub says -/

/-- A check run that has ended in failure, or a status context that has failed. -/
def RollupEntry.Failing (entry : RollupEntry) : Prop :=
  entry.bucket = "fail" ∨ entry.bucket = "" ∧
    orElse entry.conclusion entry.state ∈
      ["FAILURE", "ERROR", "TIMED_OUT", "ACTION_REQUIRED", "STARTUP_FAILURE"]

/-- A check run that has not ended, or a status context that is awaited. -/
def RollupEntry.Waiting (entry : RollupEntry) : Prop :=
  entry.bucket = "pending" ∨ entry.bucket = "" ∧ entry.conclusion = "" ∧
    (entry.state ∈ ["PENDING", "EXPECTED"] ∨ entry.status ∉ ["", "COMPLETED"])

/-- In an open pull request, the check has an entry of the kind. -/
def Shows (kind : RollupEntry → Prop) (answer : List RawPr) (key : Key) : Prop :=
  ∃ pr ∈ answer, pr.number = key.1 ∧ pr.state = "OPEN" ∧
    ∃ entry ∈ pr.statusCheckRollup, entry.checkName = key.2 ∧ kind entry

/-- The check of an open pull request is failing. -/
abbrev Fails : List RawPr → Key → Prop := Shows RollupEntry.Failing

/-- The check of an open pull request is pending. -/
abbrev Waits : List RawPr → Key → Prop := Shows RollupEntry.Waiting

/-- The open pull request is blocked, without any checks. -/
def NoChecks (answer : List RawPr) (number : ℕ) : Prop :=
  ∃ pr ∈ answer, pr.number = number ∧ pr.state = "OPEN" ∧
    pr.mergeStateStatus = some "BLOCKED" ∧ pr.statusCheckRollup = []

/-! ## What the monitor reads -/

/-- The normalized states of the entries of a check, in any pull request of its number. -/
def states (answer : List RawPr) (key : Key) : List String := buckets (snapshot answer) key

/-- Pull requests are told apart by their numbers, the monitor and GitHub agree on the entries of
the open ones, a check that fails has a single failing entry, which is its last, and a check that
is pending has pending entries only. -/
structure Regular (answer : List RawPr) : Prop where
  numbers : (answer.map RawPr.number).Nodup
  fails : ∀ pr ∈ answer, pr.state = "OPEN" → ∀ entry ∈ pr.statusCheckRollup,
    (entry.checkBucket = "fail" ↔ entry.Failing)
  waits : ∀ pr ∈ answer, pr.state = "OPEN" → ∀ entry ∈ pr.statusCheckRollup,
    (entry.checkBucket = "pending" ↔ entry.Waiting)
  failsLast : ∀ key, Fails answer key →
    (states answer key).count "fail" = 1 ∧ (states answer key).getLast? = some "fail"
  waitsOnly : ∀ key, Waits answer key → ∀ bucket ∈ states answer key, bucket = "pending"

/-- A poll that is regular, in which no check that failed or was pending in a pull request that was
not open goes on in an open one, no check begins to be pending that is still marked as stalled, and
none that has been pending since the start is overdue. -/
structure Undisturbed (stallMin : ℤ) (since : Key → Prop) (state : MonitorState)
    (prev : List RawPr) (clock : Clock) (answer : List RawPr) : Prop where
  regular : Regular answer
  fails : ∀ key, Fails answer key → "fail" ∈ states prev key → Fails prev key
  waits : ∀ key, Waits answer key → "pending" ∈ states prev key → Waits prev key
  unmarked : ∀ key, Waits answer key → ¬ Waits prev key → key ∉ state.stalledEmitted
  inTime : ∀ key, Waits answer key → since key → ¬ state.Overdue clock stallMin key

variable {state : MonitorState} {clock : Clock} {stallMin : ℤ} {key : Key} {number : ℕ}
  {since : Key → Prop} {answer prev : List RawPr} {cur : List Pr} {bucket : String}

theorem mem_states : bucket ∈ states answer key ↔
    ∃ pr ∈ answer, pr.number = key.1 ∧
      ∃ entry ∈ pr.statusCheckRollup, entry.checkName = key.2 ∧ entry.checkBucket = bucket := by
  simp [states, buckets, snapshot, RawPr.normalize, RollupEntry.check, and_assoc]

theorem Regular.fail_mem (regular : Regular answer) (fails : Fails answer key) :
    "fail" ∈ states answer key := by
  obtain ⟨pr, member, same, isOpen, entry, listed, name, failing⟩ := fails
  have agreed := (regular.fails pr member isOpen entry listed).mpr failing
  exact mem_states.mpr ⟨pr, member, same, entry, listed, name, agreed⟩

theorem Regular.pending_mem (regular : Regular answer) (waits : Waits answer key) :
    "pending" ∈ states answer key := by
  obtain ⟨pr, member, same, isOpen, entry, listed, name, waiting⟩ := waits
  have agreed := (regular.waits pr member isOpen entry listed).mpr waiting
  exact mem_states.mpr ⟨pr, member, same, entry, listed, name, agreed⟩

/-! ## The snapshot -/

theorem mem_snapshot {pr : Pr} : pr ∈ snapshot answer ↔ ∃ raw ∈ answer, raw.normalize = pr := by
  rw [snapshot, PagedQuery.mem_inOrder, List.mem_map]

theorem nodup_snapshot (numbers : (answer.map RawPr.number).Nodup) :
    ((snapshot answer).map Pr.n).Nodup := by
  have perm : (snapshot answer).Perm (answer.map RawPr.normalize) := List.perm_insertionSort _ _
  apply (perm.map Pr.n).nodup_iff.mpr
  rw [List.map_map]
  exact numbers

theorem length_filter_le_one (numbers : (cur.map Pr.n).Nodup) (chosen : Pr → Prop)
    [DecidablePred chosen] (number : ℕ) (same : ∀ pr ∈ cur, chosen pr → pr.n = number) :
    (cur.filter fun pr => chosen pr).length ≤ 1 := by
  calc (cur.filter fun pr => chosen pr).length
      = cur.countP fun pr => chosen pr := List.countP_eq_length_filter.symm
    _ ≤ cur.countP fun pr => pr.n == number :=
        List.countP_mono_left fun pr member here =>
          beq_iff_eq.mpr (same pr member (of_decide_eq_true here))
    _ = (cur.map Pr.n).count number := by
        rw [List.count_eq_countP, List.countP_map]
        rfl
    _ ≤ 1 := List.nodup_iff_count_le_one.mp numbers number

/-- The state of a check in the last poll is that of its last entry. -/
theorem prevBucket_eq (numbers : (state.prs.map Pr.n).Nodup) :
    state.prevBucket key = (buckets state.prs key).getLast? := by
  have short := length_filter_le_one numbers (fun pr => pr.n = key.1) key.1 fun _ _ same => same
  have last : state.prevPr key.1 = (state.prs.filter fun pr => pr.n = key.1).getLast? := by
    unfold MonitorState.prevPr
    rw [← List.head?_filter, List.filter_reverse, List.head?_reverse]
  unfold MonitorState.prevBucket buckets
  rw [last]
  generalize (state.prs.filter fun pr => pr.n = key.1) = found at short ⊢
  match found with
  | [] => rfl
  | [pr] =>
      rw [List.flatMap_singleton, List.getLast?_map, List.getLast?_singleton, Option.bind_some,
        ← List.head?_filter, List.filter_reverse, List.head?_reverse]
  | first :: second :: rest => simp at short

/-! ## The state after a poll -/

/-- The state tells what the last answer showed. -/
structure Matches (state : MonitorState) (prev : List RawPr) : Prop where
  prs : state.prs = snapshot prev
  active : ∀ key, key ∈ state.actionableFailActive ↔ "fail" ∈ states prev key ∧ HasFix key.2
  remembered : ∀ key, (state.pendingSeen.lookup key).isSome → "pending" ∈ states prev key
  noChecks : ∀ number, number ∈ state.noChecksActive ↔ NoChecks prev number

theorem inNoChecks_iff : (∃ pr ∈ snapshot answer, pr.n = number ∧ pr.InNoChecks) ↔
    NoChecks answer number := by
  have blocked : ∀ raw : RawPr, raw.normalize.InNoChecks ↔
      raw.state = "OPEN" ∧ raw.mergeStateStatus = some "BLOCKED" ∧ raw.statusCheckRollup = [] := by
    intro raw
    have merge : raw.mergeStateStatus.getD "UNKNOWN" = "BLOCKED" ↔
        raw.mergeStateStatus = some "BLOCKED" := by
      cases raw.mergeStateStatus with
      | none => simp
      | some status => simp
    unfold Pr.InNoChecks RawPr.normalize
    rw [merge, List.map_eq_nil_iff]
  constructor
  · intro ⟨pr, member, same, here⟩
    obtain ⟨raw, listed, rfl⟩ := mem_snapshot.mp member
    exact ⟨raw, listed, same, (blocked raw).mp here⟩
  · intro ⟨raw, listed, same, here⟩
    exact ⟨raw.normalize, mem_snapshot.mpr ⟨raw, listed, rfl⟩, same, (blocked raw).mpr here⟩

theorem matches_seed : Matches (.seed (snapshot answer)) answer where
  prs := rfl
  active key := by
    unfold MonitorState.seed states buckets HasFix
    simp only [List.mem_toFinset, List.mem_flatMap, List.mem_map, List.mem_filter]
    constructor
    · intro ⟨pr, member, check, ⟨listed, failed⟩, same⟩
      subst same
      have both := of_decide_eq_true failed
      exact ⟨⟨pr, ⟨member, decide_eq_true rfl⟩, check, ⟨listed, decide_eq_true rfl⟩, both.1⟩, both.2⟩
    · intro ⟨⟨pr, ⟨member, number⟩, check, ⟨listed, name⟩, failed⟩, known⟩
      have named := of_decide_eq_true name
      refine ⟨pr, member, check, ⟨listed, decide_eq_true ⟨failed, named ▸ known⟩⟩, ?_⟩
      exact Prod.ext (of_decide_eq_true number) named
  remembered key found := by cases found
  noChecks number := by
    rw [← inNoChecks_iff]
    unfold MonitorState.seed
    simp only [List.mem_toFinset, List.mem_map, List.mem_filter, decide_eq_true_eq]
    constructor
    · intro ⟨pr, ⟨member, here⟩, same⟩
      exact ⟨pr, member, same, here⟩
    · intro ⟨pr, member, same, here⟩
      exact ⟨pr, ⟨member, here⟩, same⟩

theorem foldl_noChecks {prs : List Pr} (once : ℕ) :
    prs.foldl (fun view _ => (view.1 + once, true)) (0, false) =
      (prs.length * once, decide (prs ≠ [])) := by
  have from_any : ∀ view : ℕ × Bool, prs.foldl (fun view _ => (view.1 + once, true)) view =
      (view.1 + prs.length * once, view.2 || decide (prs ≠ [])) := by
    induction prs with
    | nil => simp
    | cons pr rest ih =>
        intro view
        rw [List.foldl_cons, ih]
        simp [Nat.add_mul, Nat.add_comm, Nat.add_left_comm, Nat.add_assoc]
  simpa using from_any (0, false)

theorem matches_after : Matches (state.after clock stallMin (snapshot answer)) answer where
  prs := rfl
  active key := by
    have view := congrArg View.active (view_diffEmit state clock stallMin (snapshot answer) key)
    have told := (Bool.eq_iff_iff.mp view).trans active_lookAll
    exact (decide_eq_true_iff.symm.trans told).trans (by simp [states])
  remembered key found := by
    by_contra settled
    have view := congrArg View.first (view_diffEmit state clock stallMin (snapshot answer) key)
    have forgotten : (state.after clock stallMin (snapshot answer)).pendingSeen.lookup key = none :=
      view.trans (first_lookAll_of_not_mem settled)
    rw [forgotten] at found
    cases found
  noChecks number := by
    have view := congrArg Prod.snd
      (noChecksView_diffEmit state clock stallMin (snapshot answer) number)
    rw [foldl_noChecks] at view
    refine decide_eq_true_iff.symm.trans ((Bool.eq_iff_iff.mp view).trans ?_)
    rw [decide_eq_true_iff, ← inNoChecks_iff, Ne, List.filter_eq_nil_iff]
    simp

/-! ## The events of a poll -/

/-- Without a failing entry, no failure is reported. -/
theorem ciFails_diffEmit_of_not_mem (state : MonitorState) (clock : Clock) (stallMin : ℤ)
    (passes : "fail" ∉ states answer key) :
    (diffEmit state clock stallMin (snapshot answer)).events.countP (Event.isCiFail key) = 0 := by
  have view := congrArg View.fails (view_diffEmit state clock stallMin (snapshot answer) key)
  have none : (buckets (snapshot answer) key).count "fail" = 0 := List.count_eq_zero.mpr passes
  refine view.trans (fails_lookAll.trans ?_)
  rw [none, ite_self]

section Events

variable (kept : Matches state prev) (settled : Regular prev)
  (undisturbed : Undisturbed stallMin since state prev clock answer)
include kept settled undisturbed

/-- A failure is reported where it begins. -/
theorem ciFails_diffEmit (fails : Fails answer key) :
    (Fails prev key → (diffEmit state clock stallMin (snapshot answer)).events.countP
        (Event.isCiFail key) = 0) ∧
      (¬ Fails prev key → (diffEmit state clock stallMin (snapshot answer)).events.countP
        (Event.isCiFail key) = 1) := by
  have view := congrArg View.fails (view_diffEmit state clock stallMin (snapshot answer) key)
  have once : (buckets (snapshot answer) key).count "fail" = 1 :=
    (undisturbed.regular.failsLast key fails).1
  have last : state.prevBucket key = (states prev key).getLast? := by
    rw [prevBucket_eq (kept.prs ▸ nodup_snapshot settled.numbers), kept.prs]
    rfl
  have before : state.prevBucket key = some "fail" ↔ Fails prev key := by
    rw [last]
    constructor
    · intro found
      exact undisturbed.fails key fails (List.mem_of_getLast? found)
    · intro failed
      exact (settled.failsLast key failed).2
  have count := view.trans fails_lookAll
  rw [once] at count
  constructor
  · intro failed
    exact count.trans (congrArg _ (if_neg (not_not.mpr (before.mpr failed))))
  · intro passed
    exact count.trans (congrArg _ (if_pos (mt before.mp passed)))

/-- So is one that has a known fix. -/
theorem actionableFails_diffEmit (fails : Fails answer key) (known : HasFix key.2) :
    (Fails prev key → (diffEmit state clock stallMin (snapshot answer)).events.countP
        (Event.isActionableFail key) = 0) ∧
      (¬ Fails prev key → (diffEmit state clock stallMin (snapshot answer)).events.countP
        (Event.isActionableFail key) = 1) := by
  have view := congrArg View.actionables (view_diffEmit state clock stallMin (snapshot answer) key)
  have once : (buckets (snapshot answer) key).count "fail" = 1 :=
    (undisturbed.regular.failsLast key fails).1
  have before : key ∈ state.actionableFailActive ↔ Fails prev key := by
    rw [kept.active]
    constructor
    · intro both
      exact undisturbed.fails key fails both.1
    · intro failed
      exact ⟨settled.fail_mem failed, known⟩
  have count := view.trans actionables_lookAll
  rw [once] at count
  constructor
  · intro failed
    exact count.trans (congrArg _ (if_neg fun both => both.2 (before.mpr failed)))
  · intro passed
    exact count.trans (congrArg _ (if_pos ⟨known, mt before.mp passed⟩))

omit settled in
/-- So is a pull request without checks. -/
theorem noChecks_diffEmit (empty : NoChecks answer number) :
    (NoChecks prev number → (diffEmit state clock stallMin (snapshot answer)).events.countP
        (Event.isNoChecks number) = 0) ∧
      (¬ NoChecks prev number → (diffEmit state clock stallMin (snapshot answer)).events.countP
        (Event.isNoChecks number) = 1) := by
  have view := congrArg Prod.fst (noChecksView_diffEmit state clock stallMin (snapshot answer) number)
  rw [foldl_noChecks] at view
  have short := length_filter_le_one (nodup_snapshot undisturbed.regular.numbers)
    (fun pr => pr.n = number ∧ pr.InNoChecks) number fun _ _ both => both.1
  have some : 0 < ((snapshot answer).filter fun pr => pr.n = number ∧ pr.InNoChecks).length := by
    obtain ⟨pr, member, both⟩ := inNoChecks_iff.mpr empty
    exact List.length_pos_of_mem (List.mem_filter.mpr ⟨member, decide_eq_true both⟩)
  have before := kept.noChecks number
  have count : (diffEmit state clock stallMin (snapshot answer)).events.countP
      (Event.isNoChecks number) = if number ∈ state.noChecksActive then 0 else 1 := by
    refine view.trans ?_
    dsimp only
    rw [le_antisymm short some, Nat.one_mul]
  constructor
  · intro known
    rw [count, if_pos (before.mpr known)]
  · intro fresh
    rw [count, if_neg (mt before.mp fresh)]

omit kept settled in
/-- A pending check is reported unless it has been, once it is overdue, and what is remembered of
it tells since when it has been pending. -/
theorem stalls_diffEmit (waits : Waits answer key) :
    (diffEmit state clock stallMin (snapshot answer)).events.countP (Event.isStalled key) =
        (if key ∉ state.stalledEmitted ∧ state.Overdue clock stallMin key then 1 else 0) ∧
      (key ∈ (state.after clock stallMin (snapshot answer)).stalledEmitted ↔
        key ∈ state.stalledEmitted ∨ state.Overdue clock stallMin key) ∧
      (state.after clock stallMin (snapshot answer)).pendingSeen.lookup key =
        some (state.firstSeen clock key) := by
  have view := view_diffEmit state clock stallMin (snapshot answer) key
  obtain ⟨stalls, marked, first⟩ := lookAll_of_pending state clock stallMin key
    ⟨0, 0, 0, key ∈ state.stalledEmitted, none, false⟩
    (undisturbed.regular.waitsOnly key waits)
    (List.ne_nil_of_mem (undisturbed.regular.pending_mem waits))
  refine ⟨(congrArg View.stalls view).trans (stalls.trans ?_), ?_,
    (congrArg View.first view).trans first⟩
  · simp
  · have told := Bool.eq_iff_iff.mp ((congrArg View.marked view).trans marked)
    exact decide_eq_true_iff.symm.trans (told.trans (by simp))

end Events

end Panakoes.PrMonitor
