import Panakoes.TranscribeWorker.Dispatch
import Panakoes.TranscriberBatch.Attempt

/-! # Finished records that attempts take back

`run_ingestion_mode` writes to the record of an ingestion, `run` to the row of a session. The
pickup of an attempt sets the record pending, or the row active, whatever an attempt before it
has written. A finished record stays one if and only if no pickup, and for an ingestion no
failure, is written after it.
-/

namespace Panakoes.TranscriberBatch

open Transition ConditionalWrite IngestionApi TranscribeWorker

/-! ## The ingestion mode -/

/-- `mark_uploaded`. -/
def markUploaded (key : IngestionKey) (ingestions : Ingestions) : Ingestions :=
  ingestions.update key JobWrite.picked.item

/-- `mark_succeeded`. -/
def markSucceeded (key : IngestionKey) (transcript : Transcript) (ingestions : Ingestions) :
    Ingestions :=
  ingestions.update key (JobWrite.succeeded transcript).item

/-- `mark_failed`. -/
def markFailed (key : IngestionKey) (errorMessage : String) (ingestions : Ingestions) :
    Ingestions :=
  ingestions.update key (JobWrite.failed errorMessage).item

/-- `run_ingestion_mode`. -/
def runIngestionMode (key : IngestionKey) : Job Ingestions Transcript where
  stages := [.download, .load, .transcribe]
  mark := markUploaded key
  succeed := markSucceeded key
  fail := markFailed key

/-- The status that a write leaves in the record. -/
def transcriptStatus : Written → Option TranscriptStatus
  | .picked => some .pending
  | .succeeded => some .succeeded
  | .failed => some .failed

theorem runIngestionMode_sets (key : IngestionKey) :
    (runIngestionMode key).Sets (Ingestions.status · key) transcriptStatus where
  mark _ := Ingestions.status_update _
  succeed _ _ := Ingestions.status_update _
  fail _ _ := Ingestions.status_update _

/-! ## The streaming mode -/

/-- The attributes of a session that the job writes. -/
structure SessionItem where
  status : Option String
  transcriptUri : Option String
  durationSeconds : Option ℚ
  wordCount : Option ℤ
  errorMessage : Option String

/-- A row as an update finds it that is absent. -/
def SessionItem.blank : SessionItem := ⟨none, none, none, none, none⟩

/-- The sessions table of the job, keyed by `id`. -/
abbrev SessionItems := Table String SessionItem

/-- The metrics of a run that completes. -/
structure SessionMetrics where
  transcriptUri : String
  durationSeconds : ℚ
  wordCount : ℤ

/-- The status of a row. -/
def SessionItems.status (sessions : SessionItems) (sessionId : String) : Option String :=
  (sessions.lookup sessionId).bind SessionItem.status

/-- `_update_status`, with the extra attributes as a change of the item. -/
def updateStatus (sessionId status : String) (extra : SessionItem → SessionItem)
    (sessions : SessionItems) : SessionItems :=
  sessions.insert sessionId
    { extra ((sessions.lookup sessionId).getD .blank) with status := some status }

/-- `mark_transcribing`. -/
def markTranscribing (sessionId : String) : SessionItems → SessionItems :=
  updateStatus sessionId "active" fun item => item

/-- `mark_completed`. -/
def markCompleted (sessionId : String) (metrics : SessionMetrics) : SessionItems → SessionItems :=
  updateStatus sessionId "completed" fun item =>
    { item with
      transcriptUri := some metrics.transcriptUri
      durationSeconds := some metrics.durationSeconds
      wordCount := some metrics.wordCount }

/-- `mark_errored`. -/
def markErrored (sessionId errorMessage : String) : SessionItems → SessionItems :=
  updateStatus sessionId "errored" fun item =>
    { item with errorMessage := some (errorMessage.take 500).toString }

/-- `run`. -/
def run (sessionId : String) : Job SessionItems SessionMetrics where
  stages := [.download, .load, .transcribe, .upload]
  mark := markTranscribing sessionId
  succeed := markCompleted sessionId
  fail := markErrored sessionId

/-- The status that a write leaves in the row. -/
def sessionStatus : Written → Option String
  | .picked => some "active"
  | .succeeded => some "completed"
  | .failed => some "errored"

theorem status_updateStatus {sessions : SessionItems} {sessionId status : String}
    {extra : SessionItem → SessionItem} :
    (updateStatus sessionId status extra sessions).status sessionId = some status := by
  unfold SessionItems.status updateStatus
  rw [AList.lookup_insert]
  rfl

theorem run_sets (sessionId : String) :
    (run sessionId).Sets (SessionItems.status · sessionId) sessionStatus where
  mark _ := status_updateStatus
  succeed _ _ := status_updateStatus
  fail _ _ := status_updateStatus

/-! ## Records that stay finished -/

/-- Before the first attempt, with any table. -/
def State.start {τ ρ : Type} (table : τ) : State τ ρ := ⟨table, []⟩

/-- A step does not take a succeeded record to pending or failed. -/
def KeepsSucceeded (key : IngestionKey) (state : State Ingestions Transcript)
    (action : Action Transcript) : Prop :=
  ∀ next ∈ step (runIngestionMode key) state action,
    state.table.status key = some .succeeded →
      next.table.status key ≠ some .pending ∧ next.table.status key ≠ some .failed

/-- A row is completed or errored. -/
def Ended (status : Option String) : Prop := status = some "completed" ∨ status = some "errored"

instance (status : Option String) : Decidable (Ended status) :=
  inferInstanceAs (Decidable (_ ∨ _))

/-- A step does not take a row that has ended back to active. -/
def KeepsEnded (sessionId : String) (state : State SessionItems SessionMetrics)
    (action : Action SessionMetrics) : Prop :=
  ∀ next ∈ step (run sessionId) state action,
    Ended (state.table.status sessionId) → next.table.status sessionId ≠ some "active"

instance (key : IngestionKey) (state : State Ingestions Transcript) (action : Action Transcript) :
    Decidable (KeepsSucceeded key state action) :=
  inferInstanceAs (Decidable (∀ next ∈ step (runIngestionMode key) state action, _))

instance (sessionId : String) (state : State SessionItems SessionMetrics)
    (action : Action SessionMetrics) : Decidable (KeepsEnded sessionId state action) :=
  inferInstanceAs (Decidable (∀ next ∈ step (run sessionId) state action, _))

theorem keepsSucceeded_iff {key : IngestionKey} {state : State Ingestions Transcript}
    {action : Action Transcript} :
    KeepsSucceeded key state action ↔
      ∀ next ∈ step (runIngestionMode key) state action,
        state.table.status key = some .succeeded → next.table.status key = some .succeeded := by
  refine forall₂_congr fun next taken => forall_congr' fun succeeded => ?_
  have held := (runIngestionMode_sets key).registers state action next taken
  dsimp only at held
  rw [held, succeeded]
  cases action.reaching with
  | none => simp
  | some written => cases written <;> simp [transcriptStatus]

theorem keepsEnded_iff {sessionId : String} {state : State SessionItems SessionMetrics}
    {action : Action SessionMetrics} :
    KeepsEnded sessionId state action ↔
      ∀ next ∈ step (run sessionId) state action,
        Ended (state.table.status sessionId) → Ended (next.table.status sessionId) := by
  refine forall₂_congr fun next taken => forall_congr' fun ended => ?_
  have held := (run_sets sessionId).registers state action next taken
  dsimp only at held
  rw [held]
  cases action.reaching with
  | none =>
      refine iff_of_true ?_ ended
      rcases ended with completed | errored
      · simp [completed]
      · simp [errored]
  | some written => cases written <;> simp [sessionStatus, Ended]

theorem transcriptStatus_eq_succeeded {written : Written} :
    transcriptStatus written = some .succeeded ↔ written = .succeeded := by
  cases written <;> decide

theorem ended_sessionStatus {written : Written} :
    Ended (sessionStatus written) ↔ written ≠ .picked := by
  cases written <;> decide

/-- **Finished records stay finished in runs whose writes are in order.** Whatever the tables
hold, and for every run of attempts, a record that has succeeded never goes back to pending or
to failed if and only if after a success only successes are written, and a row that has ended
never goes back to active if and only if no pickup is written after an outcome. -/
theorem finished_stays_iff (key : IngestionKey) (ingestions : Ingestions) (sessionId : String)
    (sessions : SessionItems) {actions : List (Action Transcript)}
    {sessionActions : List (Action SessionMetrics)} {final : State Ingestions Transcript}
    {sessionFinal : State SessionItems SessionMetrics}
    (ran : execute (step (runIngestionMode key)) (.start ingestions) actions = some final)
    (sessionRan : execute (step (run sessionId)) (.start sessions) sessionActions =
      some sessionFinal) :
    (Meets (step (runIngestionMode key)) (fun _ => KeepsSucceeded key) [] (.start ingestions)
        actions ↔
      (reaching actions).Pairwise (fun earlier later =>
          earlier = .succeeded → later = .succeeded) ∧
        (ingestions.status key = some .succeeded →
          ∀ later ∈ reaching actions, later = .succeeded)) ∧
      (Meets (step (run sessionId)) (fun _ => KeepsEnded sessionId) [] (.start sessions)
          sessionActions ↔
        (reaching sessionActions).Pairwise (fun earlier later =>
            earlier ≠ .picked → later ≠ .picked) ∧
          (Ended (sessions.status sessionId) →
            ∀ later ∈ reaching sessionActions, later ≠ .picked)) := by
  constructor
  · have kept := (runIngestionMode_sets key).meets_finished_iff
      (fun status => status = some .succeeded) ran
    simp only [transcriptStatus_eq_succeeded] at kept
    refine Iff.trans ?_ kept
    exact Meets.congr_steps fun _ _ _ => keepsSucceeded_iff
  · have kept := (run_sets sessionId).meets_finished_iff Ended sessionRan
    simp only [ended_sessionStatus] at kept
    refine Iff.trans ?_ kept
    exact Meets.congr_steps fun _ _ _ => keepsEnded_iff

/-! ## Two attempts -/

/-- An attempt from its pickup to its end. -/
def attemptRun {ρ : Type} (index : ℕ) (stages : ℕ) (result : ρ) : List (Action ρ) :=
  .submit :: .attempt index (.mark .none) ::
    List.replicate stages (.attempt index .advance) ++
      [.attempt index (.produce result), .attempt index (.succeed .none ""),
        .attempt index .close]

def sampleKey : IngestionKey := ⟨"u", "i"⟩

def sampleTranscript : Transcript := ⟨"hello", [], none, none⟩

def sampleMetrics : SessionMetrics := ⟨"s3://transcripts/s/transcript.json", 1, 1⟩

theorem finished_stays_iff_oneAttempt :
    Meets (step (runIngestionMode sampleKey)) (fun _ => KeepsSucceeded sampleKey) [] (.start ∅)
        (attemptRun 0 2 sampleTranscript) ∧
      Meets (step (run "s")) (fun _ => KeepsEnded "s") [] (.start ∅)
        (attemptRun 0 3 sampleMetrics) := by
  have ran : ∃ final, execute (step (runIngestionMode sampleKey)) (.start ∅)
      (attemptRun 0 2 sampleTranscript) = some final := ⟨_, rfl⟩
  have sessionRan : ∃ final, execute (step (run "s")) (.start ∅) (attemptRun 0 3 sampleMetrics) =
      some final := ⟨_, rfl⟩
  obtain ⟨final, ran⟩ := ran
  obtain ⟨sessionFinal, sessionRan⟩ := sessionRan
  have stays := finished_stays_iff sampleKey ∅ "s" ∅ ran sessionRan
  constructor
  · exact stays.1.mpr ⟨by decide, by decide⟩
  · exact stays.2.mpr ⟨by decide, by decide⟩

/-- An attempt that picks the record, or the row, up after another has succeeded takes it back. -/
theorem second_attempt_takes_back :
    (¬ ∀ (key : IngestionKey) (ingestions : Ingestions) (actions : List (Action Transcript)),
      Meets (step (runIngestionMode key)) (fun _ => KeepsSucceeded key) [] (.start ingestions)
        actions) ∧
      ¬ ∀ (sessionId : String) (sessions : SessionItems) (actions : List (Action SessionMetrics)),
        Meets (step (run sessionId)) (fun _ => KeepsEnded sessionId) [] (.start sessions)
          actions := by
  constructor
  · intro always
    have kept := always sampleKey ∅
      (attemptRun 0 2 sampleTranscript ++ attemptRun 1 2 sampleTranscript)
    revert kept
    decide +kernel
  · intro always
    have kept := always "s" ∅ (attemptRun 0 3 sampleMetrics ++ attemptRun 1 3 sampleMetrics)
    revert kept
    decide +kernel

end Panakoes.TranscriberBatch
