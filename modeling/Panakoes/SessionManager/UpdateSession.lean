import Panakoes.Foundation.ConditionalWrite
import Panakoes.Foundation.Run
import Panakoes.SessionManager.SessionStore

/-! # Updates of a session

`PATCH /sessions/{session_id}` reads the record, checks the transition against the status
it has read, looks whether the item exists, and writes the new status under the condition
that the owner is right. The status moves along the allowed transitions only, as long as
every status is written over the one that its request has read.
-/

namespace Panakoes.SessionManager

open Transition

/-- `UpdateSessionRequest`. -/
structure UpdateSessionRequest where
  status : Option SessionStatus
  gpuInstanceId : Option String

/-- A request of a user to update a session. -/
structure Patch where
  sessionId : String
  userId : String
  request : UpdateSessionRequest

/-- An audit event that a status has changed. -/
structure AuditEvent where
  actorId : String
  actorType : String
  action : String
  resourceType : String
  resourceId : String
  sourceService : String
  details : SessionStatus × SessionStatus

/-- The event of a request that has changed the status. -/
def Patch.statusChanged (patch : Patch) (previous status : SessionStatus) : AuditEvent where
  actorId := patch.userId
  actorType := "user"
  action := "session.status_changed"
  resourceType := "session"
  resourceId := patch.sessionId
  sourceService := "session-manager"
  details := (previous, status)

/-- What the caller gets: a record, an `HTTPException`, or the error of a call. -/
inductive Answer where
  | updated (record : SessionRecord)
  | refused (statusCode : ℕ) (detail : String)
  | raised

/-- `_not_found`. -/
def notFound : Answer := .refused 404 "session not found"

/-- Where a request is suspended: before the call it names. -/
inductive Pc where
  | reading
  | confirming (previous : SessionStatus) (updates : Updates)
  | writing (previous : SessionStatus) (updates : Updates)
  | recording (previous status : SessionStatus) (updated : SessionRecord)
  | ended (answer : Answer)

/-- How an attempt to update an item ends: with an answer, or without one, applied or not,
after which the client repeats it or gives up. -/
inductive Attempt where
  | answered
  | repeated (applied : Bool)
  | failed (applied : Bool)
  deriving DecidableEq

/-- The item is updated, if the condition holds. -/
def Attempt.arrives : Attempt → Bool
  | .answered => true
  | .repeated applied | .failed applied => applied

/-- What a request is resumed with: the end of its call. -/
inductive Input where
  | read (answered : Bool) (now : ℚ)
  | update (attempt : Attempt)
  | record (fault : ConditionalWrite.Fault)

/-- The table and the audit log. -/
structure Store where
  sessions : Sessions
  events : List AuditEvent

/-- One step of `update_session`. -/
def Patch.resume (patch : Patch) (store : Store) : Pc → Input → Option (Store × Pc)
  | .reading, .read answered now =>
      if patch.request.status = none ∧ patch.request.gpuInstanceId = none then
        some (store, .ended (.refused 422
          "at least one of 'status' or 'gpu_instance_id' must be provided"))
      else if answered = false then some (store, .ended .raised)
      else
        match store.sessions.get patch.userId patch.sessionId with
        | none => some (store, .ended notFound)
        | some current =>
            let updates : Updates := ⟨now, patch.request.status, patch.request.gpuInstanceId⟩
            match patch.request.status with
            | none => some (store, .confirming current.status updates)
            | some status =>
                if isAllowedTransition current.status status then
                  some (store, .confirming current.status updates)
                else
                  some (store, .ended (.refused 409
                    s!"illegal status transition: {current.status.text} -> {status.text}"))
  | .confirming previous updates, .read answered _ =>
      if answered = false then some (store, .ended .raised)
      else
        match store.sessions.lookup patch.sessionId with
        | none => some (store, .ended notFound)
        | some _ => some (store, .writing previous updates)
  | .writing previous updates, .update attempt =>
      let outcome := store.sessions.updateItem patch.userId patch.sessionId updates
      let written :=
        match outcome with
        | some (sessions, _) => if attempt.arrives then { store with sessions } else store
        | none => store
      match attempt with
      | .repeated _ => some (written, .writing previous updates)
      | .failed _ => some (written, .ended .raised)
      | .answered =>
          match outcome with
          | none => some (written, .ended notFound)
          | some (_, updated) =>
              match patch.request.status with
              | some status =>
                  if status = previous then some (written, .ended (.updated updated))
                  else some (written, .recording previous status updated)
              | none => some (written, .ended (.updated updated))
  | .recording previous status updated, .record fault =>
      let outcome := ConditionalWrite.put fault store.events
        (store.events ++ [patch.statusChanged previous status])
      let answer : Answer := if outcome.reply = .ok then .updated updated else .raised
      some ({ store with events := outcome.table }, .ended answer)
  | _, _ => none

/-! ## Several requests -/

/-- A request with the place it has come to. -/
structure Call where
  patch : Patch
  pc : Pc

/-- The store and the requests of all processes. -/
structure State where
  store : Store
  calls : Table ℕ Call

/-- A request arrives, one of them is resumed, or an item expires. -/
inductive Action where
  | submit (id : ℕ) (patch : Patch)
  | resume (id : ℕ) (input : Input)
  | expire (sessionId : String)

/-- Any sessions, and no request. -/
def State.start (sessions : Sessions) : State := ⟨⟨sessions, []⟩, ∅⟩

/-- One step of the session manager. -/
def step (state : State) : Action → Option State
  | .submit id patch =>
      if id ∈ state.calls then none
      else some { state with calls := state.calls.insert id ⟨patch, .reading⟩ }
  | .resume id input =>
      (state.calls.lookup id).bind fun call =>
        (call.patch.resume state.store call.pc input).map fun (store, pc) =>
          ⟨store, state.calls.insert id ⟨call.patch, pc⟩⟩
  | .expire sessionId =>
      some { state with
        store := { state.store with sessions := state.store.sessions.erase sessionId } }

/-- A resumed request, and what it leaves. -/
theorem step_resume {before after : State} {id : ℕ} {input : Input}
    (taken : step before (.resume id input) = some after) :
    ∃ call store pc, before.calls.lookup id = some call ∧
      call.patch.resume before.store call.pc input = some (store, pc) ∧
        after = ⟨store, before.calls.insert id ⟨call.patch, pc⟩⟩ := by
  obtain ⟨call, held, moved⟩ := Option.bind_eq_some_iff.mp taken
  obtain ⟨⟨store, pc⟩, resumed, rfl⟩ := Option.map_eq_some_iff.mp moved
  exact ⟨call, store, pc, held, resumed, rfl⟩

/-! ## What a request can do -/

/-- What a request can do when it is resumed: the store it leaves and where it goes. -/
inductive Moves (patch : Patch) (store : Store) : Pc → Input → Store → Pc → Prop
  | ended {pc : Pc} {input : Input} (answer : Answer) :
      Moves patch store pc input store (.ended answer)
  | checked {input : Input} {previous : SessionStatus} {updates : Updates}
      (allowed : ∀ status, updates.status = some status →
        isAllowedTransition previous status = true) :
      Moves patch store .reading input store (.confirming previous updates)
  | confirmed {input : Input} {previous : SessionStatus} {updates : Updates} :
      Moves patch store (.confirming previous updates) input store (.writing previous updates)
  | wrote {attempt : Attempt} {previous : SessionStatus} {updates : Updates} {written : Sessions}
      {updated : SessionRecord} {next : Pc} (arrives : attempt.arrives = true)
      (applied : store.sessions.updateItem patch.userId patch.sessionId updates =
        some (written, updated))
      (goes : next = .writing previous updates ∨
        (∃ status, next = .recording previous status updated) ∨ ∃ answer, next = .ended answer) :
      Moves patch store (.writing previous updates) (.update attempt)
        { store with sessions := written } next
  | unwritten {attempt : Attempt} {previous : SessionStatus} {updates : Updates} :
      Moves patch store (.writing previous updates) (.update attempt) store
        (.writing previous updates)
  | recorded {input : Input} {previous status : SessionStatus} {updated : SessionRecord}
      (events : List AuditEvent) (answer : Answer) :
      Moves patch store (.recording previous status updated) input
        { store with events := events } (.ended answer)

variable {patch : Patch} {store after : Store} {pc next : Pc} {input : Input}

/-- An attempt to write. -/
theorem Patch.resume_writing {previous : SessionStatus} {updates : Updates} {attempt : Attempt}
    (resumed : patch.resume store (.writing previous updates) (.update attempt) =
      some (after, next)) :
    Moves patch store (.writing previous updates) (.update attempt) after next := by
  simp only [Patch.resume] at resumed
  cases outcome : store.sessions.updateItem patch.userId patch.sessionId updates with
  | none =>
      rw [outcome] at resumed
      cases attempt with
      | answered | failed applied =>
          cases resumed
          exact .ended _
      | repeated applied =>
          cases resumed
          exact .unwritten
  | some result =>
      obtain ⟨written, updated⟩ := result
      rw [outcome] at resumed
      cases attempt with
      | answered =>
          dsimp only at resumed
          split at resumed
          · split at resumed
            · cases resumed
              exact .wrote rfl outcome (Or.inr (Or.inr ⟨_, rfl⟩))
            · cases resumed
              exact .wrote rfl outcome (Or.inr (Or.inl ⟨_, rfl⟩))
          · cases resumed
            exact .wrote rfl outcome (Or.inr (Or.inr ⟨_, rfl⟩))
      | failed applied =>
          cases resumed
          cases applied with
          | true => exact .wrote rfl outcome (Or.inr (Or.inr ⟨_, rfl⟩))
          | false => exact .ended _
      | repeated applied =>
          cases resumed
          cases applied with
          | true => exact .wrote rfl outcome (Or.inl rfl)
          | false => exact .unwritten

/-- A resumed request does one of these things. -/
theorem Patch.resume_moves (resumed : patch.resume store pc input = some (after, next)) :
    Moves patch store pc input after next := by
  cases pc with
  | reading =>
      cases input with
      | update attempt => cases resumed
      | record fault => cases resumed
      | read answered now =>
          simp only [Patch.resume] at resumed
          split at resumed
          · cases resumed
            exact .ended _
          · split at resumed
            · cases resumed
              exact .ended _
            · split at resumed
              · cases resumed
                exact .ended _
              · split at resumed
                · rename_i unset
                  cases resumed
                  refine .checked fun status same => ?_
                  cases unset.symm.trans same
                · rename_i status set
                  split at resumed
                  · rename_i allowed
                    cases resumed
                    refine .checked fun other same => ?_
                    cases set.symm.trans same
                    exact allowed
                  · cases resumed
                    exact .ended _
  | confirming previous updates =>
      cases input with
      | update attempt => cases resumed
      | record fault => cases resumed
      | read answered now =>
          simp only [Patch.resume] at resumed
          split at resumed
          · cases resumed
            exact .ended _
          · split at resumed
            · cases resumed
              exact .ended _
            · cases resumed
              exact .confirmed
  | writing previous updates =>
      cases input with
      | read answered now => cases resumed
      | record fault => cases resumed
      | update attempt => exact Patch.resume_writing resumed
  | recording previous status updated =>
      cases input with
      | read answered now => cases resumed
      | update attempt => cases resumed
      | record fault =>
          cases resumed
          exact .recorded _ _
  | ended answer => cases input <;> cases resumed

/-! ## The status moves along the transitions -/

/-- The status that is going to be written is allowed after the one that was read. -/
def Pc.Checked : Pc → Prop
  | .confirming previous updates | .writing previous updates =>
      ∀ status, updates.status = some status → isAllowedTransition previous status = true
  | _ => True

/-- The status about to be written replaces the one that was read, or stands there. -/
def Pc.Fresh (record : SessionRecord) : Pc → Prop
  | .writing previous updates =>
      ∀ status ∈ updates.status, record.status = previous ∨ record.status = status
  | _ => True

instance (record : SessionRecord) : ∀ pc : Pc, Decidable (pc.Fresh record)
  | .writing _ updates => inferInstanceAs (Decidable (∀ status ∈ updates.status, _))
  | .reading | .confirming _ _ | .recording _ _ _ | .ended _ => .isTrue trivial

/-- Every status that is written to the session replaces the one its request has read. -/
def WritesFresh (sessionId : String) (state : State) : Action → Prop
  | .submit _ _ | .expire _ | .resume _ (.read _ _) | .resume _ (.record _) => True
  | .resume id (.update attempt) =>
      attempt.arrives = true → ∀ call ∈ state.calls.lookup id, call.patch.sessionId = sessionId →
        ∀ record ∈ state.store.sessions.get call.patch.userId sessionId, call.pc.Fresh record

instance (sessionId : String) (state : State) :
    ∀ action, Decidable (WritesFresh sessionId state action)
  | .submit _ _ | .expire _ | .resume _ (.read _ _) | .resume _ (.record _) => .isTrue trivial
  | .resume id (.update attempt) =>
      inferInstanceAs (Decidable (attempt.arrives = true → ∀ call ∈ state.calls.lookup id,
        call.patch.sessionId = sessionId →
          ∀ record ∈ state.store.sessions.get call.patch.userId sessionId, call.pc.Fresh record))

variable {sessionId : String} {before : State}

/-- Every request is checked. -/
def State.Checked (state : State) : Prop := state.calls.All fun _ call => call.pc.Checked

/-- A request stays checked. -/
theorem Moves.checked_next (moves : Moves patch store pc input after next)
    (checked : pc.Checked) : next.Checked := by
  cases moves with
  | ended _ | recorded _ _ => exact trivial
  | checked allowed => exact allowed
  | confirmed | unwritten => exact checked
  | wrote _ _ goes =>
      rcases goes with rfl | ⟨status, rfl⟩ | ⟨answer, rfl⟩
      · exact checked
      · exact trivial
      · exact trivial

/-- Every step keeps all requests checked. -/
theorem step_checked {after : State} {action : Action} (checked : before.Checked)
    (taken : step before action = some after) : after.Checked := by
  cases action with
  | submit id patch =>
      simp only [step] at taken
      split at taken
      · cases taken
      · cases taken
        exact Table.All.insert checked trivial
  | resume id input =>
      obtain ⟨call, store, pc, held, resumed, rfl⟩ := step_resume taken
      have moves := Patch.resume_moves resumed
      exact Table.All.insert checked (moves.checked_next (checked id call held))
  | expire sessionId =>
      cases taken
      exact checked

/-- The status stays or moves along a transition. -/
def Follows (old new : SessionStatus) : Prop := new = old ∨ isAllowedTransition old new = true

/-- A fresh write of a checked request follows a transition. -/
theorem follows_apply {record : SessionRecord} {previous : SessionStatus} {updates : Updates}
    (checked : Pc.Checked (.writing previous updates))
    (fresh : Pc.Fresh record (.writing previous updates)) :
    Follows record.status (updates.apply record).status := by
  unfold Follows Updates.apply
  cases requested : updates.status with
  | none => exact Or.inl rfl
  | some status =>
      rcases fresh status requested with read | there
      · rw [read]
        exact Or.inr (checked status requested)
      · exact Or.inl there.symm

/-- What a step does to the item of a session. -/
theorem step_lookup {after : State} {action : Action} (sessionId : String)
    (taken : step before action = some after) :
    after.store.sessions.lookup sessionId = before.store.sessions.lookup sessionId ∨
      after.store.sessions.lookup sessionId = none ∨
        ∃ id call attempt previous updates record, action = .resume id (.update attempt) ∧
          attempt.arrives = true ∧ before.calls.lookup id = some call ∧
            call.patch.sessionId = sessionId ∧ call.pc = .writing previous updates ∧
              before.store.sessions.lookup sessionId = some record ∧
                record.userId = call.patch.userId ∧
                  after.store.sessions.lookup sessionId = some (updates.apply record) := by
  cases action with
  | submit id patch =>
      simp only [step] at taken
      split at taken
      · cases taken
      · cases taken
        exact Or.inl rfl
  | expire expired =>
      cases taken
      by_cases same : sessionId = expired
      · subst same
        exact Or.inr (Or.inl (AList.lookup_erase _ _))
      · exact Or.inl (AList.lookup_erase_ne same)
  | resume id input =>
      obtain ⟨call, store, pc, there, resumed, rfl⟩ := step_resume taken
      obtain ⟨patch, place⟩ := call
      cases Patch.resume_moves resumed with
      | ended _ | checked _ | confirmed | unwritten | recorded _ _ => exact Or.inl rfl
      | wrote arrives applied _ =>
          obtain ⟨record, found, owner, rfl, rfl⟩ := Sessions.updateItem_eq_some applied
          by_cases same : sessionId = patch.sessionId
          · subst same
            exact Or.inr (Or.inr ⟨id, _, _, _, _, record, rfl, arrives, there, rfl, rfl, found,
              owner, AList.lookup_insert _⟩)
          · exact Or.inl (AList.lookup_insert_ne same)

/-- What a step does to the status of a session. -/
theorem step_follows {after : State} {action : Action} {old new : SessionRecord}
    (checked : before.Checked) (fresh : WritesFresh sessionId before action)
    (taken : step before action = some after)
    (held : before.store.sessions.lookup sessionId = some old)
    (left : after.store.sessions.lookup sessionId = some new) : Follows old.status new.status := by
  rcases step_lookup sessionId taken with same | gone | written
  · cases left.symm.trans (same.trans held)
    exact Or.inl rfl
  · cases gone.symm.trans left
  · obtain ⟨id, ⟨patch, pc⟩, attempt, previous, updates, record, rfl, arrives, there, rfl, rfl,
      found, owner, wrote⟩ := written
    cases found.symm.trans held
    cases left.symm.trans wrote
    have current : old ∈ before.store.sessions.get patch.userId patch.sessionId :=
      Option.filter_eq_some_iff.mpr ⟨held, decide_eq_true owner⟩
    exact follows_apply (checked id _ there) (fresh arrives _ there rfl old current)

/-- A terminal status stays. -/
theorem Follows.terminal {old new : SessionStatus} (follows : Follows old new)
    (terminal : isTerminal old = true) : new = old := by
  rcases follows with same | allowed
  · exact same
  · rw [not_isAllowedTransition_of_isTerminal terminal] at allowed
    cases allowed

/-- An item that has expired does not return. -/
theorem step_absent {after : State} {action : Action} (taken : step before action = some after)
    (absent : before.store.sessions.lookup sessionId = none) :
    after.store.sessions.lookup sessionId = none := by
  rcases step_lookup sessionId taken with same | gone | written
  · exact same.trans absent
  · exact gone
  · obtain ⟨_, _, _, _, _, _, _, _, _, _, _, found, _, _⟩ := written
    cases found.symm.trans absent

/-- What is known of a session whose status was terminal. -/
def Absorbed (sessionId : String) (status : SessionStatus) (state : State) : Prop :=
  state.Checked ∧ ∀ record, state.store.sessions.lookup sessionId = some record →
    record.status = status

/-- A terminal status is absorbing in every run. -/
theorem execute_absorbed {past later : List Action} {final : State} {status : SessionStatus}
    (absorbed : Absorbed sessionId status before) (terminal : isTerminal status = true)
    (fresh : Meets step (fun _ => WritesFresh sessionId) past before later)
    (run : execute step before later = some final) : Absorbed sessionId status final := by
  induction later generalizing past before with
  | nil =>
      cases run
      exact absorbed
  | cons action rest ih =>
      obtain ⟨next, taken, run⟩ := Option.bind_eq_some_iff.mp run
      refine ih ⟨step_checked absorbed.1 taken, fun record held => ?_⟩ (fresh.2 next taken) run
      cases found : before.store.sessions.lookup sessionId with
      | none =>
          rw [step_absent taken found] at held
          cases held
      | some old =>
          have same := absorbed.2 old found
          have follows := step_follows absorbed.1 fresh.1 taken found held
          rw [same] at follows
          exact follows.terminal terminal

theorem start_checked (sessions : Sessions) : (State.start sessions).Checked := Table.All.empty

/-- **Status transitions.** In every run in which every status that is written to a
session replaces the one its request has read, a step leaves the status of the session or
moves it along an allowed transition, and a terminal status stays for ever. -/
theorem status_transitions {sessions : Sessions} {past later : List Action} {action : Action}
    {before after final : State} {old : SessionRecord}
    (fresh : Meets step (fun _ => WritesFresh sessionId) [] (State.start sessions)
      (past ++ action :: later))
    (reached : execute step (State.start sessions) past = some before)
    (taken : step before action = some after) (run : execute step after later = some final)
    (held : before.store.sessions.lookup sessionId = some old) :
    (∀ new, after.store.sessions.lookup sessionId = some new → Follows old.status new.status) ∧
      (isTerminal old.status = true →
        ∀ last, final.store.sessions.lookup sessionId = some last → last.status = old.status) := by
  have checked : before.Checked :=
    execute_invariant_of_step (start_checked sessions) (fun _ _ _ => step_checked) reached
  obtain ⟨-, later⟩ := Meets.append.mp fresh
  have met := later before reached
  refine ⟨fun new left => step_follows checked met.1 taken held left, fun terminal => ?_⟩
  refine (execute_absorbed ⟨checked, fun record found => ?_⟩ terminal met ?_).2
  · cases held.symm.trans found
    rfl
  · rw [execute_cons, taken]
    exact run

/-! ## Two requests at once -/

/-- One active session. -/
def sampleSessions : Sessions :=
  AList.insert "s" ⟨"s", "u", .active, "en", none, 0, 0, 0⟩ ∅

/-- A request to set the status. -/
def setStatus (status : SessionStatus) : Patch := ⟨"s", "u", ⟨some status, none⟩⟩

/-- A read of the request that is answered. -/
def readOk (id : ℕ) : Action := .resume id (.read true 0)

/-- The update of the request is answered. -/
def updateOk (id : ℕ) : Action := .resume id (.update .answered)

/-- The status of the session. -/
def State.status (state : State) : Option SessionStatus :=
  (state.store.sessions.lookup "s").map SessionRecord.status

theorem lookup_of_status {state : State} {status : SessionStatus}
    (there : state.status = some status) :
    ∃ record, state.store.sessions.lookup "s" = some record ∧ record.status = status :=
  Option.map_eq_some_iff.mp there

/-- A pause and a completion, one after the other. -/
def orderlyRun : List Action :=
  [.submit 0 (setStatus .paused), readOk 0, readOk 0, updateOk 0, .submit 1 (setStatus .completed),
    readOk 1, readOk 1]

/-- The theorem on that run, at the second write. -/
theorem status_transitions_orderly :
    ∃ before after old, execute step (State.start sampleSessions) orderlyRun = some before ∧
      step before (updateOk 1) = some after ∧
        before.store.sessions.lookup "s" = some old ∧ old.status = .paused ∧
          ∀ new, after.store.sessions.lookup "s" = some new → Follows old.status new.status := by
  have reached : (execute step (State.start sampleSessions) orderlyRun).map (fun state =>
      (state.status, (step state (updateOk 1)).map State.status)) =
        some (some .paused, some (some .completed)) := by
    decide +kernel
  obtain ⟨before, run, statuses⟩ := Option.map_eq_some_iff.mp reached
  obtain ⟨status, moved⟩ := Prod.mk.inj statuses
  obtain ⟨after, taken, -⟩ := Option.map_eq_some_iff.mp moved
  obtain ⟨old, held, paused⟩ := lookup_of_status status
  have fresh : Meets step (fun _ => WritesFresh "s") [] (State.start sampleSessions)
      (orderlyRun ++ [updateOk 1]) := by
    decide +kernel
  exact ⟨before, after, old, run, taken, held, paused,
    (status_transitions fresh run taken rfl held).1⟩

/-- A pause reads the status before a completion is written, and is written after it. -/
def staleRun : List Action :=
  [.submit 0 (setStatus .completed), .submit 1 (setStatus .paused), readOk 0, readOk 1, readOk 0,
    readOk 1, updateOk 0]

/-- A completed session is paused. -/
theorem completed_paused :
    ¬ ∀ (sessions : Sessions) (past : List Action) (action : Action) (before after : State)
      (old new : SessionRecord), execute step (State.start sessions) past = some before →
        step before action = some after → before.store.sessions.lookup "s" = some old →
          after.store.sessions.lookup "s" = some new → Follows old.status new.status := by
  intro always
  have reached : (execute step (State.start sampleSessions) staleRun).map (fun state =>
      (state.status, (step state (updateOk 1)).map State.status)) =
        some (some .completed, some (some .paused)) := by
    decide +kernel
  obtain ⟨before, run, statuses⟩ := Option.map_eq_some_iff.mp reached
  obtain ⟨completed, paused⟩ := Prod.mk.inj statuses
  obtain ⟨after, taken, paused⟩ := Option.map_eq_some_iff.mp paused
  obtain ⟨old, held, oldStatus⟩ := lookup_of_status completed
  obtain ⟨new, left, newStatus⟩ := lookup_of_status paused
  have follows := always _ staleRun (updateOk 1) before after old new run taken held left
  rw [oldStatus, newStatus] at follows
  rcases follows with same | allowed
  · cases same
  · cases allowed

end Panakoes.SessionManager
