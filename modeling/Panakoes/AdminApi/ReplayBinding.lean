import Panakoes.AdminApi.AtMostOnce

/-! # What a replayed envelope is bound to

All operations and targets share the rows of the idempotency keys, and the lookup comes
before the confirmation gate. An envelope comes from the operation and the target of the
request that gets it, and that request is confirmed, as long as a key is used for one
operation on one target and a request that finds a row is confirmed.
-/

namespace Panakoes.AdminApi

open Transition

/-- The audit log holds the intent row of an execution of the same operation on the same
target under the request identifier. -/
def Stems (store : Store) (submission : Submission) (requestId : String) : Prop :=
  ∃ origin : Submission, origin.operation = submission.operation ∧
    origin.targetId = submission.targetId ∧
    ∃ now, .audit (origin.intentRow requestId now) ∈ store.log

/-- A key is used for one operation on one target, and a request that finds a row is
confirmed. -/
def Binds (state : State) : Action → Prop
  | .submit _ submission =>
      state.calls.All fun _ other => other.submission.key = submission.key →
        other.submission.operation = submission.operation ∧
          other.submission.targetId = submission.targetId
  | .resume id _ =>
      ∀ call ∈ state.calls.lookup id, call.pc.atLookup = true →
        (state.store.get call.submission.key).isSome = true → call.submission.Confirmed

instance (state : State) : ∀ action, Decidable (Binds state action)
  | .submit _ submission => inferInstanceAs (Decidable (state.calls.All fun _ other =>
      other.submission.key = submission.key → other.submission.operation = submission.operation ∧
        other.submission.targetId = submission.targetId))
  | .resume id _ => inferInstanceAs (Decidable (∀ call ∈ state.calls.lookup id, _))

/-- What is known of a request where it is suspended or has ended. -/
def Call.Bound (store : Store) (call : Call) : Prop :=
  match call.pc with
  | .reading => True
  | .auditing => call.submission.Confirmed
  | .seeding requestId | .handling requestId _ | .finalizing requestId _ _ =>
      call.submission.Confirmed ∧ Stems store call.submission requestId
  | .closing requestId _ answer =>
      call.submission.Confirmed ∧ Stems store call.submission requestId ∧
        ∀ envelope, answer = .envelope envelope → envelope.auditRequestId = requestId
  | .ended answer =>
      ∀ envelope, answer = .envelope envelope →
        call.submission.Confirmed ∧ Stems store call.submission envelope.auditRequestId

/-- Every row comes from a request with its key, requests with one key are for the same
operation and target, and every request is bound. -/
structure Bound (state : State) : Prop where
  rows : ∀ key envelope, state.store.get key = some envelope →
    state.calls.Any fun _ call => call.submission.key = key ∧
      Stems state.store call.submission envelope.auditRequestId
  keys : ∀ one first, state.calls.lookup one = some first →
    ∀ other second, state.calls.lookup other = some second →
      first.submission.key = second.submission.key →
        first.submission.operation = second.submission.operation ∧
          first.submission.targetId = second.submission.targetId
  calls : state.calls.All fun _ call => call.Bound state.store

variable {before : State} {id : ℕ} {call : Call} {store written : Store} {submission : Submission}
  {requestId : String}

theorem Stems.mono (stems : Stems store submission requestId)
    (kept : store.log ⊆ written.log) : Stems written submission requestId := by
  obtain ⟨origin, operation, target, now, recorded⟩ := stems
  exact ⟨origin, operation, target, now, kept recorded⟩

theorem Stems.of_same {other : Submission} (stems : Stems store other requestId)
    (operation : other.operation = submission.operation)
    (target : other.targetId = submission.targetId) : Stems store submission requestId := by
  obtain ⟨origin, sameOperation, sameTarget, recorded⟩ := stems
  exact ⟨origin, sameOperation.trans operation, sameTarget.trans target, recorded⟩

theorem Call.Bound.mono (bound : call.Bound store) (kept : store.log ⊆ written.log) :
    call.Bound written := by
  obtain ⟨submission, pc⟩ := call
  cases pc with
  | reading => exact trivial
  | auditing => exact bound
  | seeding requestId => exact ⟨bound.1, bound.2.mono kept⟩
  | handling requestId startedAt => exact ⟨bound.1, bound.2.mono kept⟩
  | finalizing requestId startedAt result => exact ⟨bound.1, bound.2.mono kept⟩
  | closing requestId failureMessage answer => exact ⟨bound.1, bound.2.1.mono kept, bound.2.2⟩
  | ended answer =>
      exact fun envelope same => ⟨(bound envelope same).1, (bound envelope same).2.mono kept⟩

/-- A request moves: the log grows, and a new row is its own. -/
theorem Bound.move (all : Bound before) (held : before.calls.lookup id = some call) {pc : Pc}
    (kept : before.store.log ⊆ store.log)
    (rowed : ∀ key envelope, store.get key = some envelope →
      before.store.get key = some envelope ∨
        (call.submission.key = key ∧ Stems store call.submission envelope.auditRequestId))
    (bound : Call.Bound store ⟨call.submission, pc⟩) :
    Bound ⟨store, before.calls.insert id ⟨call.submission, pc⟩⟩ := by
  have same : ∀ other found, (before.calls.insert id ⟨call.submission, pc⟩).lookup other =
      some found → ∃ earlier, before.calls.lookup other = some earlier ∧
        earlier.submission = found.submission := by
    intro other found there
    rcases Table.lookup_insert_cases there with ⟨rfl, rfl⟩ | ⟨-, stays⟩
    · exact ⟨call, held, rfl⟩
    · exact ⟨found, stays, rfl⟩
  refine ⟨fun key envelope found => ?_, ?_, Table.All.insert ?_ bound⟩
  · rcases rowed key envelope found with earlier | ⟨own, stems⟩
    · obtain ⟨other, owner, there, ownKey, stems⟩ := all.rows key envelope earlier
      by_cases here : other = id
      · subst here
        rw [held] at there
        cases there
        exact ⟨other, _, AList.lookup_insert _, ownKey, stems.mono kept⟩
      · exact ⟨other, owner, (AList.lookup_insert_ne here).trans there, ownKey, stems.mono kept⟩
    · exact ⟨id, _, AList.lookup_insert _, own, stems⟩
  · intro one first oneHeld other second otherHeld keys
    obtain ⟨earlier, there, equal⟩ := same one first oneHeld
    obtain ⟨rival, rivalThere, rivalEqual⟩ := same other second otherHeld
    rw [← equal, ← rivalEqual] at keys ⊢
    exact all.keys one earlier there other rival rivalThere keys
  · exact fun other found there => (all.calls other found there).mono kept

/-- A request moves and the rows stay. -/
theorem Bound.stay (all : Bound before) (held : before.calls.lookup id = some call) {pc : Pc}
    (kept : before.store.log ⊆ store.log) (rows : store.get = before.store.get)
    (bound : Call.Bound store ⟨call.submission, pc⟩) :
    Bound ⟨store, before.calls.insert id ⟨call.submission, pc⟩⟩ :=
  all.move held kept (fun _ _ found => Or.inl (by rw [← rows]; exact found)) bound

theorem log_subset_record (effect : Effect) : store.log ⊆ (store.record effect).log :=
  List.subset_append_left _ _

/-- The intent row of a request is what its envelope stems from. -/
theorem stems_intent (now : Clock) :
    Stems (store.record (.audit (submission.intentRow requestId now))) submission requestId :=
  ⟨submission, rfl, rfl, now, List.mem_append_right _ (List.mem_singleton_self _)⟩

theorem unbound_of_bare {answer : Answer} (bare : answer.Bare) :
    Call.Bound store ⟨submission, .ended answer⟩ :=
  fun envelope same => absurd same (bare envelope)

/-- A row that is put is the request's own. -/
theorem own_putPending {now : ℚ} (stems : Stems store submission requestId) {key : String}
    {envelope : LifecycleResponse}
    (found : (store.putPending submission.key requestId now).get key = some envelope) :
    store.get key = some envelope ∨ (submission.key = key ∧
      Stems (store.putPending submission.key requestId now) submission
        envelope.auditRequestId) := by
  rw [Store.get_putPending] at found
  split at found
  · rename_i same
    cases found
    exact Or.inr ⟨same.symm, stems⟩
  · exact Or.inl found

theorem auditRequestId_terminalEnvelope (submission : Submission) (requestId : String)
    (startedAt finishedAt : ℚ) (result : Except String (List (String × PyJson))) :
    (submission.terminalEnvelope requestId startedAt finishedAt result).auditRequestId =
        requestId ∧
      (submission.terminalEnvelope requestId startedAt finishedAt result).idempotencyKey =
        submission.key := by
  cases result <;> exact ⟨rfl, rfl⟩

/-- A row that is finalized is the request's own. -/
theorem own_updateTerminal {startedAt finishedAt : ℚ}
    {result : Except String (List (String × PyJson))} (stems : Stems store submission requestId)
    {key : String} {envelope : LifecycleResponse}
    (found : (store.updateTerminal
      (submission.terminalEnvelope requestId startedAt finishedAt result)).get key =
        some envelope) :
    store.get key = some envelope ∨ (submission.key = key ∧
      Stems (store.updateTerminal
        (submission.terminalEnvelope requestId startedAt finishedAt result)) submission
          envelope.auditRequestId) := by
  obtain ⟨own, keyed⟩ :=
    auditRequestId_terminalEnvelope submission requestId startedAt finishedAt result
  rw [Store.get_updateTerminal, keyed] at found
  split at found
  · rename_i same
    cases found
    rw [own]
    exact Or.inr ⟨same.symm, stems⟩
  · exact Or.inl found

/-- A request that arrives has a key of its own, or one of the same operation on the same
target. -/
theorem Bound.submit (all : Bound before) (fresh : id ∉ before.calls)
    (binds : Binds before (.submit id submission)) :
    Bound { before with calls := before.calls.insert id ⟨submission, .reading⟩ } := by
  have absent : ∀ other found, before.calls.lookup other = some found → other ≠ id := by
    rintro other found there rfl
    exact fresh (AList.lookup_isSome.mp (by rw [there]; rfl))
  refine ⟨fun key envelope found => ?_, ?_, Table.All.insert all.calls trivial⟩
  · obtain ⟨other, owner, there, own⟩ := all.rows key envelope found
    exact ⟨other, owner, (AList.lookup_insert_ne (absent other owner there)).trans there, own⟩
  · intro one first oneHeld other second otherHeld keys
    rcases Table.lookup_insert_cases oneHeld with ⟨rfl, rfl⟩ | ⟨-, oneBefore⟩
    · rcases Table.lookup_insert_cases otherHeld with ⟨-, rfl⟩ | ⟨-, otherBefore⟩
      · exact ⟨rfl, rfl⟩
      · obtain ⟨operation, target⟩ := binds other second otherBefore keys.symm
        exact ⟨operation.symm, target.symm⟩
    · rcases Table.lookup_insert_cases otherHeld with ⟨rfl, rfl⟩ | ⟨-, otherBefore⟩
      · exact binds one first oneBefore keys
      · exact all.keys one first oneBefore other second otherBefore keys

/-- Every step that binds keeps all requests bound. -/
theorem step_bound {after : State} {action : Action} (all : Bound before)
    (binds : Binds before action) (taken : step before action = some after) : Bound after := by
  cases action with
  | submit id submission =>
      simp only [step] at taken
      split at taken
      · cases taken
      · rename_i fresh
        cases taken
        exact all.submit fresh binds
  | resume id input =>
      obtain ⟨call, store, pc, held, resumed, rfl⟩ := step_resume taken
      have bound := all.calls id call held
      obtain ⟨submission, place⟩ := call
      cases Submission.resume_moves resumed with
      | cached found =>
          refine all.stay held (List.Subset.refl _) rfl ?_
          rintro envelope ⟨⟩
          obtain ⟨other, owner, there, key, stems⟩ := all.rows _ _ found
          obtain ⟨operation, target⟩ := all.keys other owner there id _ held key
          have cached : (before.store.get submission.key).isSome = true := by
            rw [found]
            rfl
          have confirmed : submission.Confirmed := binds ⟨submission, .reading⟩ held rfl cached
          exact ⟨confirmed, stems.of_same operation target⟩
      | admitted absent confirmed => exact all.stay held (List.Subset.refl _) rfl confirmed
      | refused bare => exact all.stay held (List.Subset.refl _) rfl (unbound_of_bare bare)
      | intended requestId now =>
          exact all.stay held (log_subset_record _) rfl ⟨bound, stems_intent now⟩
      | unintended bare tried =>
          rcases tried with rfl | ⟨requestId, now, rfl⟩
          · exact all.stay held (List.Subset.refl _) rfl (unbound_of_bare bare)
          · exact all.stay held (log_subset_record _) rfl (unbound_of_bare bare)
      | seeded requestId now =>
          exact all.move held (List.Subset.refl _) (fun _ _ => own_putPending bound.2) bound
      | unseeded bare tried =>
          rcases tried with rfl | ⟨now, rfl⟩
          · exact all.stay held (List.Subset.refl _) rfl
              ⟨bound.1, bound.2, fun envelope same => absurd same (bare envelope)⟩
          · exact all.move held (List.Subset.refl _) (fun _ _ => own_putPending bound.2)
              ⟨bound.1, bound.2, fun envelope same => absurd same (bare envelope)⟩
      | ran result ended =>
          exact all.stay held (log_subset_record _) rfl
            ⟨bound.1, bound.2.mono (log_subset_record _)⟩
      | interrupted =>
          exact all.stay held (log_subset_record _) rfl
            ⟨bound.1, bound.2.mono (log_subset_record _), fun _ => Answer.noConfusion⟩
      | finalized finishedAt failureMessage =>
          refine all.move held (List.Subset.refl _) (fun _ _ => own_updateTerminal bound.2)
            ⟨bound.1, bound.2, ?_⟩
          rintro envelope ⟨⟩
          exact (auditRequestId_terminalEnvelope _ _ _ finishedAt _).1
      | unfinalized bare tried =>
          rcases tried with rfl | ⟨finishedAt, rfl⟩
          · exact all.stay held (List.Subset.refl _) rfl
              ⟨bound.1, bound.2, fun envelope same => absurd same (bare envelope)⟩
          · exact all.move held (List.Subset.refl _) (fun _ _ => own_updateTerminal bound.2)
              ⟨bound.1, bound.2, fun envelope same => absurd same (bare envelope)⟩
      | closed answers tried =>
          have kept : before.store.log ⊆ store.log := by
            rcases tried with rfl | ⟨now, rfl⟩
            · exact List.Subset.refl _
            · exact log_subset_record _
          have rows : store.get = before.store.get := by
            rcases tried with rfl | ⟨now, rfl⟩ <;> rfl
          refine all.stay held kept rows ?_
          rcases answers with rfl | bare
          · intro envelope same
            rw [bound.2.2 envelope same]
            exact ⟨bound.1, bound.2.1.mono kept⟩
          · exact unbound_of_bare bare

theorem initial_bound : Bound State.initial where
  rows := by
    intro key envelope found
    cases found
  keys := by
    intro one first held
    cases held
  calls := Table.All.empty

/-- **Replay binding.** In every run in which a key is used for one operation on one
target and a request that finds a row is confirmed, an envelope that a request gets stems
from an execution of its operation on its target, and the request is confirmed. -/
theorem envelope_bound {actions : List Action} {final : State}
    (binds : Meets step (fun _ => Binds) [] State.initial actions)
    (run : execute step State.initial actions = some final) {id : ℕ} {submission : Submission}
    {envelope : LifecycleResponse}
    (answered : final.calls.lookup id = some ⟨submission, .ended (.envelope envelope)⟩) :
    submission.Confirmed ∧ Stems final.store submission envelope.auditRequestId := by
  have all : Bound final := by
    refine execute_invariant initial_bound ?_ binds run
    exact fun _ _ _ _ all condition taken => step_bound all condition taken
  exact all.calls id _ answered envelope rfl

/-! ## A key that is used again -/

/-- The same request once more, after the first has ended. -/
def replayRun : List Action :=
  [.submit 0 sampleSubmission, callOk 0 "", callOk 0 "a", callOk 0 "", handlerOk 0, callOk 0 "",
    callOk 0 "", .submit 1 sampleSubmission, callOk 1 ""]

/-- A request that has got an envelope: whether it is confirmed. -/
def answeredConfirmed (state : State) (id : ℕ) : Option Bool :=
  (state.calls.lookup id).bind fun call =>
    match call.pc with
    | .ended (.envelope _) => some (decide call.submission.Confirmed)
    | _ => none

/-- Such a request, with its envelope. -/
theorem answered_of_confirmed {state : State} {id : ℕ} {confirmed : Bool}
    (answered : answeredConfirmed state id = some confirmed) :
    ∃ submission envelope, state.calls.lookup id = some ⟨submission, .ended (.envelope envelope)⟩ ∧
      decide submission.Confirmed = confirmed := by
  obtain ⟨⟨submission, pc⟩, held, answered⟩ := Option.bind_eq_some_iff.mp answered
  dsimp only at answered
  split at answered
  · rename_i envelope
    exact ⟨submission, envelope, held, Option.some.inj answered⟩
  · cases answered

/-- The theorem on that run. -/
theorem envelope_bound_replay :
    ∃ final submission envelope, execute step State.initial replayRun = some final ∧
      final.calls.lookup 1 = some ⟨submission, .ended (.envelope envelope)⟩ ∧
        submission.Confirmed ∧ Stems final.store submission envelope.auditRequestId := by
  have reached : (execute step State.initial replayRun).map (answeredConfirmed · 1) =
      some (some true) := by
    decide +kernel
  obtain ⟨final, run, answered⟩ := Option.map_eq_some_iff.mp reached
  obtain ⟨submission, envelope, held, -⟩ := answered_of_confirmed answered
  exact ⟨final, submission, envelope, run, held, envelope_bound (by decide +kernel) run held⟩

/-- Another operation on another target with the same key and a wrong confirmation, after
the first has ended. -/
def reusedRun : List Action :=
  [.submit 0 sampleSubmission, callOk 0 "", callOk 0 "a", callOk 0 "", handlerOk 0, callOk 0 "",
    callOk 0 "", .submit 1 ⟨.blockTenant, "t", "admin", ⟨"k", "wrong", []⟩⟩, callOk 1 ""]

/-- The second request gets the envelope of the first. -/
theorem envelope_leaks :
    ¬ ∀ (actions : List Action) (final : State),
      execute step State.initial actions = some final →
        ∀ (id : ℕ) (submission : Submission) (envelope : LifecycleResponse),
          final.calls.lookup id = some ⟨submission, .ended (.envelope envelope)⟩ →
            submission.Confirmed ∧ Stems final.store submission envelope.auditRequestId := by
  intro always
  have reached : (execute step State.initial reusedRun).map (answeredConfirmed · 1) =
      some (some false) := by
    decide +kernel
  obtain ⟨final, run, answered⟩ := Option.map_eq_some_iff.mp reached
  obtain ⟨submission, envelope, held, unconfirmed⟩ := answered_of_confirmed answered
  obtain ⟨confirmed, -⟩ := always reusedRun final run 1 submission envelope held
  exact of_decide_eq_false unconfirmed confirmed

end Panakoes.AdminApi
