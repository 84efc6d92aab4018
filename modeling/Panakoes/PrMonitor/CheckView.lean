import Panakoes.PrMonitor.DiffEmit

/-! # What a poll says of one check

Of the variables of `diff_emit` only a few concern one check. They are changed by the entries that
have its name, in the pull request of its number, and by nothing else.
-/

namespace Panakoes.PrMonitor

/-- A failure of the check. -/
def Event.isCiFail (key : Key) : Event → Bool
  | .ciFail n name _ => (n, name) = key
  | _ => false

/-- A failure of the check that has a known fix. -/
def Event.isActionableFail (key : Key) : Event → Bool
  | .actionableFail n name _ _ => (n, name) = key
  | _ => false

/-- A report that the check is stalled. -/
def Event.isStalled (key : Key) : Event → Bool
  | .stalled n name _ _ => (n, name) = key
  | _ => false

/-- A report that the pull request has no checks. -/
def Event.isNoChecks (number : ℕ) : Event → Bool
  | .noChecks n _ => n = number
  | _ => false

/-- What the variables say of a check: the events of each kind, and what is carried on. -/
structure View where
  fails : ℕ
  actionables : ℕ
  stalls : ℕ
  marked : Bool
  first : Option ℤ
  active : Bool

/-- What they say of the check with the key. -/
def Progress.view (key : Key) (progress : Progress) : View where
  fails := progress.events.countP (Event.isCiFail key)
  actionables := progress.events.countP (Event.isActionableFail key)
  stalls := progress.events.countP (Event.isStalled key)
  marked := key ∈ progress.stalledMarked
  first := progress.newPendingSeen.lookup key
  active := key ∈ progress.newActionableFailActive

/-- The check has a known fix. -/
def HasFix (name : String) : Prop := (actionableFixes.lookup name).isSome = true

instance : DecidablePred HasFix := fun _ => inferInstanceAs (Decidable (_ = _))

/-- An entry with the name of the check is looked at. -/
def View.look (state : MonitorState) (clock : Clock) (stallMin : ℤ) (key : Key) (view : View)
    (bucket : String) : View where
  fails := view.fails + if bucket = "fail" ∧ state.prevBucket key ≠ some "fail" then 1 else 0
  actionables := view.actionables +
    if bucket = "fail" ∧ HasFix key.2 ∧ key ∉ state.actionableFailActive then 1 else 0
  stalls := view.stalls +
    if bucket = "pending" ∧ view.marked = false ∧ state.Overdue clock stallMin key then 1 else 0
  marked := if bucket = "pending" then view.marked || state.Overdue clock stallMin key else false
  first := if bucket = "pending" then some (state.firstSeen clock key) else view.first
  active := view.active || decide (bucket = "fail" ∧ HasFix key.2)

/-- Entries are looked at in their order, told by their states. -/
def View.lookAll (state : MonitorState) (clock : Clock) (stallMin : ℤ) (key : Key) (view : View)
    (entries : List String) : View :=
  entries.foldl (fun view bucket => view.look state clock stallMin key bucket) view

variable {state : MonitorState} {clock : Clock} {stallMin : ℤ} {key : Key} {progress : Progress}
  {pr : Pr} {check : Check} {cur : List Pr}

/-! ## One entry -/

theorem countP_isCiFail_transitionEvents (prevBucket : Option String) :
    (transitionEvents prevBucket pr check).countP (Event.isCiFail key) =
      if (pr.n, check.name) = key ∧ check.bucket = "fail" ∧ prevBucket ≠ some "fail"
      then 1 else 0 := by
  unfold transitionEvents
  by_cases fails : check.bucket = "fail" ∧ prevBucket ≠ some "fail"
  · rw [if_pos fails, List.countP_singleton]
    exact if_congr (by simp [Event.isCiFail, fails]) rfl rfl
  · have never : ¬ ((pr.n, check.name) = key ∧ check.bucket = "fail" ∧ prevBucket ≠ some "fail") :=
      fun all => fails all.2
    rw [if_neg fails, if_neg never]
    split
    · rfl
    · rfl

theorem countP_transitionEvents_of_other {kind : Event → Bool} (prevBucket : Option String)
    (noFailure : kind (.ciFail pr.n check.name pr.t) = false)
    (noRecovery : kind (.ciRecovered pr.n check.name pr.t) = false) :
    (transitionEvents prevBucket pr check).countP kind = 0 := by
  unfold transitionEvents
  split
  · simp [noFailure]
  · split
    · simp [noRecovery]
    · rfl

theorem view_transition : (progress.transition state pr check).view key =
    { progress.view key with
      fails := (progress.view key).fails +
        if (pr.n, check.name) = key ∧ check.bucket = "fail" ∧
          state.prevBucket (pr.n, check.name) ≠ some "fail" then 1 else 0 } := by
  unfold Progress.transition Progress.view
  simp only [List.countP_append, countP_isCiFail_transitionEvents]
  rw [countP_transitionEvents_of_other _ rfl rfl, countP_transitionEvents_of_other _ rfl rfl]
  rfl

theorem view_actionable : (progress.actionable state pr check).view key =
    { progress.view key with
      actionables := (progress.view key).actionables +
        if (pr.n, check.name) = key ∧ check.bucket = "fail" ∧ HasFix check.name ∧
          (pr.n, check.name) ∉ state.actionableFailActive then 1 else 0
      active := (progress.view key).active ||
        decide ((pr.n, check.name) = key ∧ check.bucket = "fail" ∧ HasFix check.name) } := by
  unfold Progress.actionable
  cases found : actionableFixes.lookup check.name with
  | none =>
      have unknown : ¬ HasFix check.name := by
        unfold HasFix
        rw [found]
        exact Bool.false_ne_true
      simp [unknown]
  | some fix =>
      have known : HasFix check.name := by
        unfold HasFix
        rw [found]
        rfl
      dsimp only
      by_cases fails : check.bucket = "fail"
      · rw [if_pos fails]
        unfold Progress.view
        by_cases reported : (pr.n, check.name) ∈ state.actionableFailActive
        · simp only [known, reported, fails, eq_comm, if_true, List.append_nil, Finset.mem_insert,
            Bool.decide_or, not_true, and_false, if_false, Nat.add_zero, and_self, and_true]
          rw [Bool.or_comm]
        · by_cases same : (pr.n, check.name) = key
          · subst same
            simp [known, reported, fails, Event.isCiFail, Event.isActionableFail, Event.isStalled]
          · simp [reported, fails, same, Ne.symm same, Event.isCiFail, Event.isActionableFail,
              Event.isStalled]
      · rw [if_neg fails]
        simp [fails]

theorem view_pending : (progress.pending state clock stallMin pr check).view key =
    if (pr.n, check.name) = key then
      { progress.view key with
        stalls := (progress.view key).stalls +
          if check.bucket = "pending" ∧ (progress.view key).marked = false ∧
            state.Overdue clock stallMin key then 1 else 0
        marked := if check.bucket = "pending" then
          (progress.view key).marked || state.Overdue clock stallMin key else false
        first := if check.bucket = "pending" then some (state.firstSeen clock key)
          else (progress.view key).first }
    else progress.view key := by
  unfold Progress.pending
  dsimp only
  by_cases same : (pr.n, check.name) = key
  · rw [if_pos same]
    subst same
    by_cases waits : check.bucket = "pending"
    · simp only [waits, if_true, true_and]
      by_cases late : state.Overdue clock stallMin (pr.n, check.name)
      · by_cases marked : (pr.n, check.name) ∈ progress.stalledMarked
        · simp [marked, late, Progress.view]
        · simp [marked, late, Progress.view, Event.isCiFail, Event.isActionableFail,
            Event.isStalled]
      · simp [late, Progress.view]
    · simp [waits, Progress.view]
  · rw [if_neg same]
    have apart : key ≠ (pr.n, check.name) := Ne.symm same
    by_cases waits : check.bucket = "pending"
    · rw [if_pos waits]
      split
      · simp [Progress.view, same, apart, AList.lookup_insert_ne apart, Event.isCiFail,
          Event.isActionableFail, Event.isStalled]
      · simp [Progress.view, AList.lookup_insert_ne apart]
    · rw [if_neg waits]
      simp [Progress.view, apart]

/-- What an entry changes. -/
theorem view_checkStep : (checkStep state clock stallMin pr progress check).view key =
    if (pr.n, check.name) = key then (progress.view key).look state clock stallMin key check.bucket
    else progress.view key := by
  unfold checkStep
  rw [view_pending, view_actionable, view_transition]
  by_cases same : (pr.n, check.name) = key
  · rw [if_pos same, if_pos same]
    subst same
    simp only [true_and]
    rfl
  · simp [same]

/-! ## All entries -/

/-- The event is about no check, and not about a pull request without checks. -/
def Event.AboutWhole (event : Event) : Prop :=
  (∀ key, event.isCiFail key = false ∧ event.isActionableFail key = false ∧
    event.isStalled key = false) ∧ ∀ number, event.isNoChecks number = false

theorem aboutWhole_of_mem_prEvents {event : Event} (member : event ∈ prEvents state pr) :
    event.AboutWhole := by
  unfold prEvents at member
  split at member
  · rw [List.mem_singleton.mp member]
    exact ⟨fun _ => ⟨rfl, rfl, rfl⟩, fun _ => rfl⟩
  · rcases List.mem_append.mp member with here | here
    all_goals
      split_ifs at here
      all_goals first
        | exact absurd here List.not_mem_nil
        | (rw [List.mem_singleton.mp here]; exact ⟨fun _ => ⟨rfl, rfl, rfl⟩, fun _ => rfl⟩)

/-- The pull request as a whole changes nothing about a check. -/
theorem view_pullRequest : (progress.pullRequest state pr).view key = progress.view key := by
  have quiet : ∀ kind : Event → Bool, (∀ event ∈ prEvents state pr, kind event = false) →
      (prEvents state pr).countP kind = 0 := by
    intro kind none
    apply List.countP_eq_zero.mpr
    intro event member
    rw [none event member]
    exact Bool.false_ne_true
  have fails := quiet (Event.isCiFail key) fun _ member =>
    ((aboutWhole_of_mem_prEvents member).1 key).1
  have actionables := quiet (Event.isActionableFail key) fun _ member =>
    ((aboutWhole_of_mem_prEvents member).1 key).2.1
  have stalls := quiet (Event.isStalled key) fun _ member =>
    ((aboutWhole_of_mem_prEvents member).1 key).2.2
  unfold Progress.pullRequest Progress.view
  split
  · split
    · simp [fails, actionables, stalls]
    · simp [fails, actionables, stalls, Event.isCiFail, Event.isActionableFail, Event.isStalled]
  · simp [fails, actionables, stalls]

/-- The states of the entries that a check has. -/
def buckets (cur : List Pr) (key : Key) : List String :=
  (cur.filter fun pr => pr.n = key.1).flatMap fun pr =>
    (pr.checks.filter fun check => check.name = key.2).map Check.bucket

theorem view_foldl_checkStep (checks : List Check) :
    (checks.foldl (checkStep state clock stallMin pr) progress).view key =
      if pr.n = key.1 then
        (progress.view key).lookAll state clock stallMin key
          ((checks.filter fun check => check.name = key.2).map Check.bucket)
      else progress.view key := by
  induction checks generalizing progress with
  | nil => exact (ite_self _).symm
  | cons check rest ih =>
      rw [List.foldl_cons, ih, view_checkStep]
      by_cases number : pr.n = key.1
      · rw [if_pos number, if_pos number]
        by_cases name : check.name = key.2
        · rw [List.filter_cons_of_pos (by simp [name]), List.map_cons,
            if_pos (Prod.ext number name)]
          rfl
        · rw [List.filter_cons_of_neg (by simp [name]),
            if_neg fun same => name (congrArg Prod.snd same)]
      · rw [if_neg number, if_neg number, if_neg fun same => number (congrArg Prod.fst same)]

/-- **What a poll says of a check** is told by its entries. -/
theorem view_diffEmit (state : MonitorState) (clock : Clock) (stallMin : ℤ) (cur : List Pr)
    (key : Key) : (diffEmit state clock stallMin cur).view key =
      View.lookAll state clock stallMin key ⟨0, 0, 0, key ∈ state.stalledEmitted, none, false⟩
        (buckets cur key) := by
  have whole : ∀ progress : Progress, (cur.foldl (prStep state clock stallMin) progress).view key =
      (progress.view key).lookAll state clock stallMin key (buckets cur key) := by
    induction cur with
    | nil => exact fun _ => rfl
    | cons pr rest ih =>
        intro progress
        rw [List.foldl_cons, ih, prStep, view_foldl_checkStep, view_pullRequest]
        unfold buckets
        by_cases number : pr.n = key.1
        · rw [if_pos number, List.filter_cons_of_pos (by simp [number]), List.flatMap_cons]
          exact List.foldl_append.symm
        · rw [if_neg number, List.filter_cons_of_neg (by simp [number])]
  exact (whole _).trans (by rfl)

/-! ## All entries of one name -/

section Lookings

variable {view : View} {entries : List String}

theorem View.lookAll_cons {bucket : String} :
    view.lookAll state clock stallMin key (bucket :: entries) =
      (view.look state clock stallMin key bucket).lookAll state clock stallMin key entries := rfl

theorem fails_lookAll : (view.lookAll state clock stallMin key entries).fails =
    view.fails + if state.prevBucket key ≠ some "fail" then entries.count "fail" else 0 := by
  induction entries generalizing view with
  | nil => simp [View.lookAll]
  | cons bucket rest ih =>
      rw [View.lookAll_cons, ih, List.count_cons]
      by_cases before : state.prevBucket key = some "fail"
      · simp [View.look, before]
      · by_cases here : bucket = "fail"
        · simp [View.look, before, here]
          omega
        · simp [View.look, before, here]

theorem actionables_lookAll : (view.lookAll state clock stallMin key entries).actionables =
    view.actionables +
      if HasFix key.2 ∧ key ∉ state.actionableFailActive then entries.count "fail" else 0 := by
  induction entries generalizing view with
  | nil => simp [View.lookAll]
  | cons bucket rest ih =>
      rw [View.lookAll_cons, ih, List.count_cons]
      by_cases begins : HasFix key.2 ∧ key ∉ state.actionableFailActive
      · by_cases here : bucket = "fail"
        · simp [View.look, begins, here]
          omega
        · simp [View.look, here]
      · simp [View.look, begins]

theorem active_lookAll : (view.lookAll state clock stallMin key entries).active = true ↔
    view.active = true ∨ "fail" ∈ entries ∧ HasFix key.2 := by
  induction entries generalizing view with
  | nil => simp [View.lookAll]
  | cons bucket rest ih =>
      have here : (view.look state clock stallMin key bucket).active = true ↔
          view.active = true ∨ bucket = "fail" ∧ HasFix key.2 := by
        simp [View.look]
      rw [View.lookAll_cons, ih, here, List.mem_cons, eq_comm (a := bucket), or_assoc, ← or_and_right]

/-- Nothing is remembered of a check that is not pending. -/
theorem first_lookAll_of_not_mem (settled : "pending" ∉ entries) :
    (view.lookAll state clock stallMin key entries).first = view.first := by
  induction entries generalizing view with
  | nil => rfl
  | cons bucket rest ih =>
      obtain ⟨here, later⟩ := List.ne_and_not_mem_of_not_mem_cons settled
      rw [View.lookAll_cons, ih later]
      exact if_neg (Ne.symm here)

/-- A check all whose entries are pending is reported unless it has been, and is remembered. -/
theorem lookAll_of_pending (state : MonitorState) (clock : Clock) (stallMin : ℤ) (key : Key)
    (view : View) (waits : ∀ bucket ∈ entries, bucket = "pending")
    (nonempty : entries ≠ []) :
    (view.lookAll state clock stallMin key entries).stalls =
        view.stalls + (if view.marked = false ∧ state.Overdue clock stallMin key then 1 else 0) ∧
      (view.lookAll state clock stallMin key entries).marked =
        (view.marked || decide (state.Overdue clock stallMin key)) ∧
      (view.lookAll state clock stallMin key entries).first =
        some (state.firstSeen clock key) := by
  induction entries generalizing view with
  | nil => exact absurd rfl nonempty
  | cons bucket rest ih =>
      obtain ⟨here, later⟩ := List.forall_mem_cons.mp waits
      have stalls : (view.look state clock stallMin key bucket).stalls =
          view.stalls + if view.marked = false ∧ state.Overdue clock stallMin key then 1 else 0 := by
        simp [View.look, here]
      have marked : (view.look state clock stallMin key bucket).marked =
          (view.marked || decide (state.Overdue clock stallMin key)) := if_pos here
      have first : (view.look state clock stallMin key bucket).first =
          some (state.firstSeen clock key) := if_pos here
      by_cases last : rest = []
      · subst last
        exact ⟨stalls, marked, first⟩
      · obtain ⟨more, still, remembered⟩ :=
          ih (view.look state clock stallMin key bucket) later last
        refine ⟨more.trans ?_, still.trans ?_, remembered⟩
        · rw [stalls, marked]
          by_cases late : state.Overdue clock stallMin key
          · simp [late]
          · simp [late]
        · rw [marked, Bool.or_assoc, Bool.or_self]

end Lookings

/-! ## Pull requests without checks -/

/-- What the variables say of a pull request without checks. -/
def Progress.noChecksView (number : ℕ) (progress : Progress) : ℕ × Bool :=
  (progress.events.countP (Event.isNoChecks number), number ∈ progress.newNoChecksActive)

variable {number : ℕ}

theorem noChecksView_checkStep :
    (checkStep state clock stallMin pr progress check).noChecksView number =
      progress.noChecksView number := by
  have transition : (progress.transition state pr check).noChecksView number =
      progress.noChecksView number := by
    unfold Progress.transition Progress.noChecksView
    rw [List.countP_append, countP_transitionEvents_of_other _ rfl rfl, Nat.add_zero]
  have actionable : ∀ progress : Progress,
      (progress.actionable state pr check).noChecksView number =
        progress.noChecksView number := by
    intro progress
    unfold Progress.actionable
    split
    · rfl
    · split
      · split <;> simp [Progress.noChecksView, Event.isNoChecks]
      · rfl
  have pending : ∀ progress : Progress,
      (progress.pending state clock stallMin pr check).noChecksView number =
        progress.noChecksView number := by
    intro progress
    unfold Progress.pending
    dsimp only
    split
    · split
      · simp [Progress.noChecksView, Event.isNoChecks]
      · rfl
    · rfl
  exact (pending _).trans ((actionable _).trans transition)

theorem noChecksView_pullRequest : (progress.pullRequest state pr).noChecksView number =
    if pr.n = number ∧ pr.InNoChecks then
      ((progress.noChecksView number).1 + if number ∈ state.noChecksActive then 0 else 1, true)
    else progress.noChecksView number := by
  have quiet : (prEvents state pr).countP (Event.isNoChecks number) = 0 := by
    apply List.countP_eq_zero.mpr
    intro event member
    rw [(aboutWhole_of_mem_prEvents member).2 number]
    exact Bool.false_ne_true
  unfold Progress.pullRequest
  by_cases none : pr.InNoChecks
  · by_cases same : pr.n = number
    · subst same
      have both : pr.n = pr.n ∧ pr.InNoChecks := ⟨rfl, none⟩
      rw [if_pos none, if_pos both]
      by_cases known : pr.n ∈ state.noChecksActive
      · simp [known, quiet, Progress.noChecksView]
      · simp [known, quiet, Progress.noChecksView, Event.isNoChecks]
    · have apart : number ≠ pr.n := Ne.symm same
      have never : ¬ (pr.n = number ∧ pr.InNoChecks) := fun both => same both.1
      rw [if_pos none, if_neg never]
      by_cases known : pr.n ∈ state.noChecksActive
      · simp [known, quiet, Progress.noChecksView, apart]
      · simp [known, quiet, Progress.noChecksView, apart, same, Event.isNoChecks]
  · have never : ¬ (pr.n = number ∧ pr.InNoChecks) := fun both => none both.2
    rw [if_neg none, if_neg never]
    simp [quiet, Progress.noChecksView]

/-- **What a poll says of a pull request without checks.** -/
theorem noChecksView_diffEmit (state : MonitorState) (clock : Clock) (stallMin : ℤ)
    (cur : List Pr) (number : ℕ) : (diffEmit state clock stallMin cur).noChecksView number =
      (cur.filter fun pr => pr.n = number ∧ pr.InNoChecks).foldl
        (fun view _ => (view.1 + if number ∈ state.noChecksActive then 0 else 1, true))
        (0, false) := by
  have checks : ∀ (pr : Pr) (checks : List Check) (progress : Progress),
      (checks.foldl (checkStep state clock stallMin pr) progress).noChecksView number =
        progress.noChecksView number := by
    intro pr checks
    induction checks with
    | nil => exact fun _ => rfl
    | cons check rest ih =>
        intro progress
        rw [List.foldl_cons, ih, noChecksView_checkStep]
  have whole : ∀ progress : Progress,
      (cur.foldl (prStep state clock stallMin) progress).noChecksView number =
        (cur.filter fun pr => pr.n = number ∧ pr.InNoChecks).foldl
          (fun view _ => (view.1 + if number ∈ state.noChecksActive then 0 else 1, true))
          (progress.noChecksView number) := by
    induction cur with
    | nil => exact fun _ => rfl
    | cons pr rest ih =>
        intro progress
        rw [List.foldl_cons, ih, prStep, checks, noChecksView_pullRequest]
        by_cases here : pr.n = number ∧ pr.InNoChecks
        · rw [if_pos here, List.filter_cons_of_pos (by simp [here]), List.foldl_cons]
        · rw [if_neg here, List.filter_cons_of_neg (by simpa using here)]
  exact (whole _).trans (by rfl)

end Panakoes.PrMonitor
