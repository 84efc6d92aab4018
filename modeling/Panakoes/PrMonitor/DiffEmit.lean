import Mathlib.Data.Finset.Basic
import Mathlib.Data.Rat.Floor
import Mathlib.Order.OrderDual
import Panakoes.Foundation.PagedQuery
import Panakoes.Foundation.Table

/-! # The monitor of pull requests

Every poll lists the pull requests with their checks, and the differences from the last successful
poll are emitted as events. Four sets are carried from poll to poll: since when a check has been
pending, which checks have been reported as stalled, and which pull requests and checks have been
reported as without checks and as failing with a known fix. A poll that raises ends the monitor.
-/

namespace Panakoes.PrMonitor

/-- An entry of `statusCheckRollup`, a check run or a status context. A field that is absent or
`null` is empty here, as the code does not tell these apart. -/
structure RollupEntry where
  name : String
  context : String
  bucket : String
  status : String
  conclusion : String
  state : String

/-- A pull request in the answer of GitHub. -/
structure RawPr where
  number : ℕ
  state : String
  mergeStateStatus : Option String
  title : String
  statusCheckRollup : List RollupEntry

/-- A check of a snapshot. -/
structure Check where
  name : String
  bucket : String

/-- A pull request of a snapshot. -/
structure Pr where
  n : ℕ
  s : String
  m : String
  t : String
  checks : List Check

/-- `first or second`. -/
def orElse (first second : String) : String := if first = "" then second else first

/-- The name of a check. -/
def RollupEntry.checkName (entry : RollupEntry) : String :=
  orElse entry.name (orElse entry.context "?")

/-- The normalized state of a check. The states that the code asks for have the letters a to z only,
which are the lower case of no other letters than A to Z, the Kelvin sign apart. -/
def RollupEntry.checkBucket (entry : RollupEntry) : String :=
  orElse entry.bucket (orElse entry.conclusion.toLower entry.state.toLower)

/-- One check of a snapshot. -/
def RollupEntry.check (entry : RollupEntry) : Check := ⟨entry.checkName, entry.checkBucket⟩

/-- One pull request of a snapshot. -/
def RawPr.normalize (pr : RawPr) : Pr where
  n := pr.number
  s := pr.state
  m := pr.mergeStateStatus.getD "UNKNOWN"
  t := (pr.title.take 60).toString
  checks := pr.statusCheckRollup.map RollupEntry.check

/-- `snapshot`, on an answer that could be read. -/
def snapshot (answer : List RawPr) : List Pr :=
  PagedQuery.inOrder (fun pr => OrderDual.toDual pr.n) (answer.map RawPr.normalize)

/-- `ACTIONABLE_FIXES`. -/
def actionableFixes : List (String × String) :=
  [("Verify .changelog fragment present when code changes",
    "drop `.changelog/<UTC-ts>-<slug>.md` (timestamp: `date -u +%Y%m%dT%H%M%SZ`) " ++
    "with YAML frontmatter `category: Added|Changed|Fixed|Removed|Deprecated|Security`, " ++
    "OR `gh pr edit <N> --add-label skip-changelog`"),
   ("Validate Conventional Commits format",
    "fix PR title to `type(scope): subject` (type in feat/fix/chore/docs/refactor/test/style/ci/" ++
    "perf/build/security). `gh pr edit <N> --title 'type(scope): subject'`")]

/-- What `diff_emit` emits. -/
inductive Event where
  | newPr (n : ℕ) (state mergeStatus title : String)
  | merged (n : ℕ) (title : String)
  | closed (n : ℕ) (title : String)
  | stateChanged (n : ℕ) (old new title : String)
  | needsRebase (mergeStatus : String) (n : ℕ) (title : String)
  | clean (n : ℕ) (title : String)
  | unstable (n : ℕ) (title : String)
  | noChecks (n : ℕ) (title : String)
  | ciFail (n : ℕ) (name title : String)
  | ciRecovered (n : ℕ) (name title : String)
  | actionableFail (n : ℕ) (name fix title : String)
  | stalled (n : ℕ) (name : String) (elapsedMin : ℚ) (title : String)

/-- The line of an event. -/
def Event.line (oneDecimal : ℚ → String) : Event → String
  | .newPr n state mergeStatus title =>
      s!"NEW PR #{n} state={state} mergeStatus={mergeStatus} | {title}"
  | .merged n title => s!"MERGED #{n} | {title}"
  | .closed n title => s!"CLOSED #{n} (unmerged) | {title}"
  | .stateChanged n old new title => s!"state #{n} {old} -> {new} | {title}"
  | .needsRebase mergeStatus n title => s!"{mergeStatus} #{n} (needs rebase) | {title}"
  | .clean n title => s!"CLEAN #{n} (CI green, ready to merge) | {title}"
  | .unstable n title => s!"UNSTABLE #{n} (mergeable, non-required failing) | {title}"
  | .noChecks n title =>
      s!"NO-CHECKS #{n} (open + BLOCKED + zero checks; run scripts/pr-unstick.sh {n}) | {title}"
  | .ciFail n name title => s!"CI-FAIL #{n}: {name} | {title}"
  | .ciRecovered n name title => s!"CI-RECOVERED #{n}: {name} | {title}"
  | .actionableFail n name fix title => s!"ACTIONABLE-FAIL #{n}: {name} | FIX: {fix} | {title}"
  | .stalled n name elapsedMin title =>
      s!"STALLED #{n}: {name} pending for {oneDecimal elapsedMin}min | {title}"

/-- A check of a pull request. The number in the code's text keys has no colon, so that they tell
both parts. -/
abbrev Key := ℕ × String

/-- `state`, without the count of the polls. -/
structure MonitorState where
  prs : List Pr
  pendingSeen : Table Key ℤ
  stalledEmitted : Finset Key
  noChecksActive : Finset ℕ
  actionableFailActive : Finset Key

/-- What the clock reads while a check is looked at: `now_iso()`, in whole seconds, and then
`datetime.now`, in seconds. -/
structure Clock where
  nowIso : Key → ℤ
  now : Key → ℚ

/-- The variables of `diff_emit`. -/
structure Progress where
  events : List Event
  newPendingSeen : Table Key ℤ
  stalledMarked : Finset Key
  newNoChecksActive : Finset ℕ
  newActionableFailActive : Finset Key

/-- `prev_prs.get(n)`. -/
def MonitorState.prevPr (state : MonitorState) (n : ℕ) : Option Pr :=
  state.prs.reverse.find? fun pr => pr.n = n

/-- `prev_checks.get(name)`, of the checks that the pull request had. -/
def MonitorState.prevBucket (state : MonitorState) (key : Key) : Option String :=
  (state.prevPr key.1).bind fun prev =>
    (prev.checks.reverse.find? fun check => check.name = key.2).map Check.bucket

/-- The events about a pull request as a whole. -/
def prEvents (state : MonitorState) (pr : Pr) : List Event :=
  match state.prevPr pr.n with
  | none => [.newPr pr.n pr.s pr.m pr.t]
  | some prev =>
      (if pr.s ≠ prev.s then
        if pr.s = "MERGED" then [.merged pr.n pr.t]
        else if pr.s = "CLOSED" then [.closed pr.n pr.t]
        else [.stateChanged pr.n prev.s pr.s pr.t]
      else []) ++
      if pr.m ≠ prev.m then
        if pr.m = "BEHIND" ∨ pr.m = "DIRTY" then [.needsRebase pr.m pr.n pr.t]
        else if pr.m = "CLEAN" then [.clean pr.n pr.t]
        else if pr.m = "UNSTABLE" then [.unstable pr.n pr.t]
        else []
      else []

/-- `in_no_checks`. -/
def Pr.InNoChecks (pr : Pr) : Prop := pr.s = "OPEN" ∧ pr.m = "BLOCKED" ∧ pr.checks = []

instance (pr : Pr) : Decidable pr.InNoChecks :=
  decidable_of_iff (pr.s = "OPEN" ∧ pr.m = "BLOCKED" ∧ pr.checks.isEmpty = true) (by
    rw [List.isEmpty_iff]
    rfl)

/-- The failure or the recovery of a check. -/
def transitionEvents (prevBucket : Option String) (pr : Pr) (check : Check) : List Event :=
  if check.bucket = "fail" ∧ prevBucket ≠ some "fail" then [.ciFail pr.n check.name pr.t]
  else if check.bucket = "pass" ∧ prevBucket = some "fail" then
    [.ciRecovered pr.n check.name pr.t]
  else []

/-- The difference to the check of the last poll. -/
def Progress.transition (progress : Progress) (state : MonitorState) (pr : Pr) (check : Check) :
    Progress :=
  { progress with
    events := progress.events ++
      transitionEvents (state.prevBucket (pr.n, check.name)) pr check }

/-- A failure with a known fix. -/
def Progress.actionable (progress : Progress) (state : MonitorState) (pr : Pr) (check : Check) :
    Progress :=
  match actionableFixes.lookup check.name with
  | none => progress
  | some fix =>
      if check.bucket = "fail" then
        { progress with
          newActionableFailActive := insert (pr.n, check.name) progress.newActionableFailActive
          events := progress.events ++
            if (pr.n, check.name) ∈ state.actionableFailActive then []
            else [.actionableFail pr.n check.name fix pr.t] }
      else progress

/-- `first_seen`: since when a check that is pending has been pending. -/
def MonitorState.firstSeen (state : MonitorState) (clock : Clock) (key : Key) : ℤ :=
  (state.pendingSeen.lookup key).getD (clock.nowIso key)

/-- `elapsed_min`. -/
def MonitorState.elapsedMin (state : MonitorState) (clock : Clock) (key : Key) : ℚ :=
  (clock.now key - state.firstSeen clock key) / 60

/-- `elapsed_min > STALL_MIN`. -/
def MonitorState.Overdue (state : MonitorState) (clock : Clock) (stallMin : ℤ) (key : Key) : Prop :=
  stallMin < state.elapsedMin clock key

instance (state : MonitorState) (clock : Clock) (stallMin : ℤ) (key : Key) :
    Decidable (state.Overdue clock stallMin key) := inferInstanceAs (Decidable (_ < _))

/-- A check that is pending, or no longer. -/
def Progress.pending (progress : Progress) (state : MonitorState) (clock : Clock) (stallMin : ℤ)
    (pr : Pr) (check : Check) : Progress :=
  let key := (pr.n, check.name)
  if check.bucket = "pending" then
    let seen := { progress with
      newPendingSeen := progress.newPendingSeen.insert key (state.firstSeen clock key) }
    if key ∉ progress.stalledMarked ∧ state.Overdue clock stallMin key then
      { seen with
        events := progress.events ++
          [.stalled pr.n check.name (state.elapsedMin clock key) pr.t]
        stalledMarked := insert key progress.stalledMarked }
    else seen
  else { progress with stalledMarked := progress.stalledMarked.erase key }

/-- The loop over the checks of a pull request. -/
def checkStep (state : MonitorState) (clock : Clock) (stallMin : ℤ) (pr : Pr)
    (progress : Progress) (check : Check) : Progress :=
  ((progress.transition state pr check).actionable state pr check).pending state clock stallMin pr
    check

/-- The pull request as a whole, and whether it has no checks. -/
def Progress.pullRequest (progress : Progress) (state : MonitorState) (pr : Pr) : Progress :=
  if pr.InNoChecks then
    { progress with
      newNoChecksActive := insert pr.n progress.newNoChecksActive
      events := progress.events ++ prEvents state pr ++
        if pr.n ∈ state.noChecksActive then [] else [.noChecks pr.n pr.t] }
  else { progress with events := progress.events ++ prEvents state pr }

/-- The loop over the pull requests. -/
def prStep (state : MonitorState) (clock : Clock) (stallMin : ℤ) (progress : Progress) (pr : Pr) :
    Progress :=
  pr.checks.foldl (checkStep state clock stallMin pr) (progress.pullRequest state pr)

/-- `diff_emit`. -/
def diffEmit (state : MonitorState) (clock : Clock) (stallMin : ℤ) (cur : List Pr) : Progress :=
  cur.foldl (prStep state clock stallMin) ⟨[], ∅, state.stalledEmitted, ∅, ∅⟩

/-- The state after a poll. -/
def MonitorState.after (state : MonitorState) (clock : Clock) (stallMin : ℤ) (cur : List Pr) :
    MonitorState :=
  let progress := diffEmit state clock stallMin cur
  { prs := cur
    pendingSeen := progress.newPendingSeen
    stalledEmitted := progress.stalledMarked
    noChecksActive := progress.newNoChecksActive
    actionableFailActive := progress.newActionableFailActive }

/-- The state after the first snapshot. -/
def MonitorState.seed (cur : List Pr) : MonitorState where
  prs := cur
  pendingSeen := ∅
  stalledEmitted := ∅
  noChecksActive := ((cur.filter fun pr => pr.InNoChecks).map Pr.n).toFinset
  actionableFailActive := (cur.flatMap fun pr =>
    (pr.checks.filter fun check =>
      check.bucket = "fail" ∧ (actionableFixes.lookup check.name).isSome).map
        fun check => (pr.n, check.name)).toFinset

/-- One poll: the answer, unless the call has failed or could not be read, and the clock. -/
structure Poll where
  answer : Option (List RawPr)
  clock : Clock

/-- A successful poll with what it emits. -/
structure Shot where
  answer : List RawPr
  clock : Clock
  events : List Event

/-- The loop of `main`: the successful polls, with what they emit. -/
def monitor (stallMin : ℤ) : MonitorState → List Poll → List Shot
  | _, [] => []
  | state, poll :: rest =>
      match poll.answer with
      | none => monitor stallMin state rest
      | some answer =>
          ⟨answer, poll.clock, (diffEmit state poll.clock stallMin (snapshot answer)).events⟩ ::
            monitor stallMin (state.after poll.clock stallMin (snapshot answer)) rest

end Panakoes.PrMonitor
