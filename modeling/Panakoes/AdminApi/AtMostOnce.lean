import Panakoes.AdminApi.Lifecycle

/-! # At most once

The handler of an operation runs at most once under an idempotency key, as long as no
request passes the lookup of its key while another one with the key has passed it and has
not put its row yet. The lookup and the put are separate calls, with the intent row
between them, and the put has no condition.
-/

namespace Panakoes.AdminApi

open Transition

/-- The effect is a run of the handler under the key. -/
def Effect.runsUnder (key : String) : Effect → Bool
  | .audit _ => false
  | .handler submission _ => submission.key = key

/-- How often the handler has run under the key. -/
def Store.executions (store : Store) (key : String) : ℕ := store.log.countP (Effect.runsUnder key)

/-- The request has passed the lookup and has not put its row. -/
def Pc.entering : Pc → Bool
  | .auditing | .seeding _ => true
  | _ => false

/-- The request may still run its handler. -/
def Pc.ahead : Pc → Bool
  | .auditing | .seeding _ | .handling _ _ => true
  | _ => false

/-- The request is about to look its key up. -/
def Pc.atLookup : Pc → Bool
  | .reading => true
  | _ => false

/-- No confirmed request finds its key absent while another one with it is entering. -/
def EntersAlone (state : State) : Action → Prop
  | .submit _ _ => True
  | .resume id _ =>
      ∀ call ∈ state.calls.lookup id, call.pc.atLookup = true → call.submission.Confirmed →
        (state.store.get call.submission.key).isNone = true →
          state.calls.All fun _ other =>
            other.submission.key = call.submission.key → other.pc.entering = false

instance (state : State) : ∀ action, Decidable (EntersAlone state action)
  | .submit _ _ => .isTrue trivial
  | .resume id _ => inferInstanceAs (Decidable (∀ call ∈ state.calls.lookup id, _))

/-- Under every key the handler has run at most once, and a request that may still run it
is alone and finds that it has not run. -/
structure Once (state : State) : Prop where
  single : ∀ key, state.store.executions key ≤ 1
  fresh : state.calls.All fun _ call =>
    call.pc.ahead = true → state.store.executions call.submission.key = 0
  alone : ∀ one first, state.calls.lookup one = some first → first.pc.ahead = true →
    ∀ other second, state.calls.lookup other = some second → second.pc.ahead = true →
      first.submission.key = second.submission.key → one = other
  absent : ∀ key, state.store.get key = none → state.store.executions key = 0 ∧
    state.calls.All fun _ call =>
      call.submission.key = key → call.pc.ahead = true → call.pc.entering = true

section Effects

variable {store : Store} {key : String}

theorem executions_audit (row : AuditRow) :
    (store.record (.audit row)).executions key = store.executions key := by
  simp [Store.executions, Store.record, Effect.runsUnder]

theorem executions_handler (submission : Submission) (result : HandlerResult) :
    (store.record (.handler submission result)).executions key =
      store.executions key + if submission.key = key then 1 else 0 := by
  simp [Store.executions, Store.record, Effect.runsUnder, List.countP_singleton]

theorem get_of_putPending {other auditRequestId : String} {now : ℚ}
    (missing : (store.putPending key auditRequestId now).get other = none) :
    other ≠ key ∧ store.get other = none := by
  rw [Store.get_putPending] at missing
  split at missing
  · cases missing
  · rename_i different
    exact ⟨different, missing⟩

theorem get_of_updateTerminal {envelope : LifecycleResponse}
    (missing : (store.updateTerminal envelope).get key = none) : store.get key = none := by
  rw [Store.get_updateTerminal] at missing
  split at missing
  · cases missing
  · exact missing

end Effects

variable {before : State} {id : ℕ} {call entry : Call} {store : Store}

/-- A request moves, runs no handler and takes no row away. It is ahead only if it was. -/
theorem Once.move (once : Once before)
    (same : ∀ key, store.executions key = before.store.executions key)
    (grows : ∀ key, store.get key = none → before.store.get key = none)
    (behind : entry.pc.ahead = true → ∃ call, before.calls.lookup id = some call ∧
      call.pc.ahead = true ∧ call.submission.key = entry.submission.key)
    (rowed : entry.pc.ahead = true → store.get entry.submission.key = none →
      entry.pc.entering = true) :
    Once ⟨store, before.calls.insert id entry⟩ := by
  have earlier : ∀ other found, (before.calls.insert id entry).lookup other = some found →
      found.pc.ahead = true → ∃ call, before.calls.lookup other = some call ∧
        call.pc.ahead = true ∧ call.submission.key = found.submission.key := by
    intro other found there ahead
    rcases Table.lookup_insert_cases there with ⟨rfl, rfl⟩ | ⟨-, held⟩
    · exact behind ahead
    · exact ⟨found, held, ahead, rfl⟩
  refine ⟨fun key => ?_, fun other found there ahead => ?_, ?_, fun key missing => ?_⟩
  · rw [same]
    exact once.single key
  · obtain ⟨call, held, wasAhead, key⟩ := earlier other found there ahead
    rw [same, ← key]
    exact once.fresh other call held wasAhead
  · intro one first oneHeld firstAhead other second otherHeld secondAhead keys
    obtain ⟨call, held, wasAhead, key⟩ := earlier one first oneHeld firstAhead
    obtain ⟨rival, rivalHeld, rivalAhead, rivalKey⟩ := earlier other second otherHeld secondAhead
    refine once.alone one call held wasAhead other rival rivalHeld rivalAhead ?_
    rw [key, rivalKey, keys]
  · obtain ⟨unrun, entering⟩ := once.absent key (grows key missing)
    refine ⟨(same key).trans unrun, entering.insert ?_⟩
    rintro rfl ahead
    exact rowed ahead missing

/-- A confirmed request that finds its key absent, with no other one entering. -/
theorem Once.admit (once : Once before) (held : before.calls.lookup id = some call)
    (absent : before.store.get call.submission.key = none)
    (others : before.calls.All fun _ other =>
      other.submission.key = call.submission.key → other.pc.entering = false) :
    Once ⟨before.store, before.calls.insert id ⟨call.submission, .auditing⟩⟩ := by
  obtain ⟨unrun, entering⟩ := once.absent _ absent
  have noneAhead : ∀ other found, before.calls.lookup other = some found →
      found.submission.key = call.submission.key → found.pc.ahead = false := by
    intro other found there key
    by_contra ahead
    rw [Bool.not_eq_false] at ahead
    have still := entering other found there key ahead
    rw [others other found there key] at still
    cases still
  refine ⟨once.single, Table.All.insert once.fresh fun _ => unrun, ?_, fun key missing => ?_⟩
  · intro one first oneHeld firstAhead other second otherHeld secondAhead keys
    rcases Table.lookup_insert_cases oneHeld with ⟨rfl, rfl⟩ | ⟨-, oneBefore⟩
    · rcases Table.lookup_insert_cases otherHeld with ⟨rfl, -⟩ | ⟨-, otherBefore⟩
      · rfl
      · rw [noneAhead other second otherBefore keys.symm] at secondAhead
        cases secondAhead
    · rcases Table.lookup_insert_cases otherHeld with ⟨rfl, rfl⟩ | ⟨-, otherBefore⟩
      · rw [noneAhead one first oneBefore keys] at firstAhead
        cases firstAhead
      · exact once.alone one first oneBefore firstAhead other second otherBefore secondAhead keys
  · obtain ⟨unrunKey, enteringKey⟩ := once.absent key missing
    exact ⟨unrunKey, enteringKey.insert fun _ _ => rfl⟩

/-- The one request that is ahead runs its handler. -/
theorem Once.run (once : Once before) (held : before.calls.lookup id = some call)
    (ahead : call.pc.ahead = true) (entered : call.pc.entering = false)
    (behind : entry.pc.ahead = false) (result : HandlerResult) :
    Once ⟨before.store.record (.handler call.submission result),
      before.calls.insert id entry⟩ := by
  have rowed : before.store.get call.submission.key ≠ none := by
    intro missing
    have entering := (once.absent _ missing).2 id call held rfl ahead
    rw [entered] at entering
    cases entering
  have othersElsewhere : ∀ other found, (before.calls.insert id entry).lookup other = some found →
      found.pc.ahead = true → before.calls.lookup other = some found ∧
        found.submission.key ≠ call.submission.key := by
    intro other found there foundAhead
    rcases Table.lookup_insert_cases there with ⟨rfl, rfl⟩ | ⟨different, before⟩
    · rw [behind] at foundAhead
      cases foundAhead
    · exact ⟨before, fun key =>
        different (once.alone other found before foundAhead id call held ahead key)⟩
  refine ⟨fun key => ?_, fun other found there foundAhead => ?_, ?_, fun key missing => ?_⟩
  · rw [executions_handler]
    split
    · rename_i same
      subst same
      rw [once.fresh id call held ahead]
    · exact once.single key
  · obtain ⟨foundBefore, key⟩ := othersElsewhere other found there foundAhead
    rw [executions_handler, if_neg (Ne.symm key)]
    exact once.fresh other found foundBefore foundAhead
  · intro one first oneHeld firstAhead other second otherHeld secondAhead keys
    exact once.alone one first (othersElsewhere one first oneHeld firstAhead).1 firstAhead other
      second (othersElsewhere other second otherHeld secondAhead).1 secondAhead keys
  · have different : call.submission.key ≠ key := by
      rintro rfl
      exact rowed missing
    obtain ⟨unrun, entering⟩ := once.absent key missing
    refine ⟨?_, entering.insert fun _ entryAhead => ?_⟩
    · rw [executions_handler, if_neg different]
      exact unrun
    · rw [behind] at entryAhead
      cases entryAhead

/-- A request that is not ahead after its step, and has run no handler. -/
theorem Once.settle (once : Once before)
    (same : ∀ key, store.executions key = before.store.executions key)
    (grows : ∀ key, store.get key = none → before.store.get key = none)
    (done : entry.pc.ahead = false) : Once ⟨store, before.calls.insert id entry⟩ := by
  refine once.move same grows (fun ahead => ?_) fun ahead => ?_
  · rw [done] at ahead
    cases ahead
  · rw [done] at ahead
    cases ahead

theorem Once.stay (once : Once before) (done : entry.pc.ahead = false) :
    Once ⟨before.store, before.calls.insert id entry⟩ :=
  once.settle (fun _ => rfl) (fun _ missing => missing) done

theorem Once.audited (once : Once before) {row : AuditRow} (done : entry.pc.ahead = false) :
    Once ⟨before.store.record (.audit row), before.calls.insert id entry⟩ :=
  once.settle (fun _ => executions_audit _) (fun _ missing => missing) done

/-- Every step of requests that enter alone keeps the runs single. -/
theorem step_once {after : State} {action : Action} (once : Once before)
    (alone : EntersAlone before action) (taken : step before action = some after) :
    Once after := by
  cases action with
  | submit id submission =>
      simp only [step] at taken
      split at taken
      · cases taken
      · cases taken
        exact once.stay rfl
  | resume id input =>
      obtain ⟨call, store, pc, held, resumed, rfl⟩ := step_resume taken
      obtain ⟨submission, place⟩ := call
      cases Submission.resume_moves resumed with
      | cached _ | refused _ => exact once.stay rfl
      | admitted absent confirmed =>
          refine once.admit held absent (alone _ held rfl confirmed ?_)
          rw [absent]
          rfl
      | intended requestId now =>
          exact once.move (fun _ => executions_audit _) (fun _ missing => missing)
            (fun _ => ⟨_, held, rfl, rfl⟩) fun _ _ => rfl
      | unintended _ tried =>
          rcases tried with rfl | ⟨requestId, now, rfl⟩
          · exact once.stay rfl
          · exact once.audited rfl
      | seeded requestId now =>
          refine once.move (fun _ => rfl) (fun _ missing => (get_of_putPending missing).2)
            (fun _ => ⟨_, held, rfl, rfl⟩) fun _ missing => ?_
          exact absurd rfl (get_of_putPending missing).1
      | unseeded _ tried =>
          rcases tried with rfl | ⟨now, rfl⟩
          · exact once.stay rfl
          · exact once.settle (fun _ => rfl) (fun _ missing => (get_of_putPending missing).2) rfl
      | ran result ended => exact once.run held rfl rfl rfl ended
      | interrupted => exact once.run held rfl rfl rfl .cancelled
      | finalized finishedAt failureMessage =>
          exact once.settle (fun _ => rfl) (fun _ => get_of_updateTerminal) rfl
      | unfinalized _ tried =>
          rcases tried with rfl | ⟨finishedAt, rfl⟩
          · exact once.stay rfl
          · exact once.settle (fun _ => rfl) (fun _ => get_of_updateTerminal) rfl
      | closed _ tried =>
          rcases tried with rfl | ⟨now, rfl⟩
          · exact once.stay rfl
          · exact once.audited rfl

theorem initial_once : Once State.initial where
  single := fun _ => Nat.zero_le _
  fresh := Table.All.empty
  alone := by
    intro one first held
    cases held
  absent := fun _ _ => ⟨rfl, Table.All.empty⟩

/-- A request to terminate a session. -/
def sampleSubmission : Submission :=
  ⟨.terminateSession, "s", "admin", ⟨"k", "TERMINATE s", [("reason", .str "abuse")]⟩⟩

def sampleClock : Clock := ⟨0, "t"⟩

/-- A call of the request that ends well. -/
def callOk (id : ℕ) (requestId : String) : Action := .resume id (.call .ok sampleClock requestId)

/-- The handler of the request returns. -/
def handlerOk (id : ℕ) : Action := .resume id (.handler (.returned []))

/-- The second request is sent once the first has put its row. -/
def laterRun : List Action :=
  [.submit 0 sampleSubmission, callOk 0 "", callOk 0 "a", callOk 0 "", .submit 1 sampleSubmission,
    callOk 1 "", handlerOk 0, callOk 0 "", callOk 0 ""]

/-- Both requests look the key up before either has put its row. -/
def racingRun : List Action :=
  [.submit 0 sampleSubmission, .submit 1 sampleSubmission, callOk 0 "", callOk 1 "", callOk 0 "a",
    callOk 1 "b", callOk 0 "", callOk 1 "", handlerOk 0, handlerOk 1]

end Panakoes.AdminApi
