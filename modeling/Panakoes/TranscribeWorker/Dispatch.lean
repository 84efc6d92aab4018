import Panakoes.Foundation.Run
import Panakoes.IngestionApi.Transcription

/-! # The dispatch of transcriptions

A delivery of an upload message marks the record pending and hands it over: to AWS Batch, or
to the transcription in the process. A failed submission and a rate limit return the message,
whose next delivery finds the mark of the first and takes it for another invocation's. The
work is kept when every delivery that deletes the message finds the mark only together with
an accepted job, and its own transcription gets to its end.
-/

namespace Panakoes.TranscribeWorker

open Transition IngestionApi

/-- The `Settings` that the dispatch uses. -/
structure Settings where
  audioUploadsBucket : String
  ddbIngestionTable : String

/-- A message about an upload. SQS gives every message an identifier. -/
structure Message where
  messageId : String
  key : IngestionKey
  identified : messageId ≠ ""

/-- A job that AWS Batch has accepted, with the environment it gets. -/
structure BatchJob where
  jobName : String
  targetMode : String
  s3InputBucket : String
  s3InputKey : String
  ingestionId : String
  userId : String
  ddbIngestionTable : String

/-- The job of `submit_batch_job`. -/
def batchJob (settings : Settings) (key : IngestionKey) (s3Key : String) : BatchJob where
  jobName := (s!"transcribe-{key.ingestionId}".take 128).toString
  targetMode := "ingestion"
  s3InputBucket := settings.audioUploadsBucket
  s3InputKey := s3Key
  ingestionId := key.ingestionId
  userId := key.userId
  ddbIngestionTable := settings.ddbIngestionTable

/-- How `submit_batch_job` ends: with a job identifier, or with an exception, the job accepted
or not. -/
inductive Submission where
  | returned
  | raised (accepted : Bool)
  deriving DecidableEq

/-- The job has been accepted. -/
def Submission.accepted : Submission → Bool
  | .returned => true
  | .raised accepted => accepted

/-- How the calls of a dispatch end. `environment` is what they read from the environment. -/
structure Calls where
  recordRead : Bool
  mark : ConditionalWrite.Fault
  environment : BackendEnvironment
  submission : Submission
  transcription : TranscriptionCalls

/-- The ingestion table and the jobs that have been accepted. -/
structure Store where
  ingestions : Ingestions
  jobs : List BatchJob

/-- How a dispatch ends: it returns the identifier of the message or nothing, or it raises. -/
inductive Dispatched where
  | returned (messageId : Option String)
  | raised
  deriving DecidableEq

/-- The branch of `_dispatch` that submits a job. -/
def dispatchBatch (settings : Settings) (store : Store) (message : Message) (upload : Upload)
    (submission : Submission) : Store × Dispatched :=
  let jobs :=
    if submission.accepted then store.jobs ++ [batchJob settings message.key upload.s3Key]
    else store.jobs
  match submission with
  | .returned => ({ store with jobs }, .returned none)
  | .raised _ => ({ store with jobs }, .returned (some message.messageId))

/-- The branch of `_dispatch` that transcribes in the process. -/
def dispatchTranscription (store : Store) (message : Message) (environment : BackendEnvironment)
    (calls : TranscriptionCalls) : Store × Dispatched :=
  let (ingestions, error) :=
    match getTranscriber environment with
    | some error => (store.ingestions, some error)
    | none => transcribeIngestion store.ingestions message.key calls
  match error with
  | some error =>
      if error.kind = .rateLimit then
        ({ store with ingestions }, .returned (some message.messageId))
      else ({ store with ingestions }, .returned none)
  | none => ({ store with ingestions }, .returned none)

/-- The part of `_dispatch` that marks the record pending and hands it over. -/
def markAndDispatch (settings : Settings) (store : Store) (message : Message) (upload : Upload)
    (calls : Calls) : Store × Dispatched :=
  let (ingestions, error) := putIngestions calls.mark store.ingestions
    (store.ingestions.setTranscriptPending message.key)
  match error with
  | some _ => ({ store with ingestions }, .raised)
  | none =>
      if calls.environment.backend = "batch" then
        dispatchBatch settings { store with ingestions } message upload calls.submission
      else
        dispatchTranscription { store with ingestions } message calls.environment
          calls.transcription

/-- `_dispatch`. -/
def dispatch (settings : Settings) (store : Store) (message : Message) (calls : Calls) :
    Store × Dispatched :=
  if calls.recordRead = false then (store, .raised)
  else
    match store.ingestions.get message.key with
    | .absent => (store, .returned none)
    | .invalid => (store, .raised)
    | .record upload status =>
        if status = some .succeeded then (store, .returned none)
        else if status = some .pending then (store, .returned none)
        else markAndDispatch settings store message upload calls

/-! ## Deliveries of a message -/

/-- What the other messages of a batch do: they leave this one alone, or one of them raises,
before this one is handled or after, and the whole batch is delivered again. -/
inductive Company where
  | quiet
  | raisedBefore
  | raisedAfter
  deriving DecidableEq

/-- What the container of an accepted job writes. -/
inductive JobWrite where
  | picked
  | succeeded (transcript : Transcript)
  | failed (errorMessage : String)

/-- The message is delivered, or the container of an accepted job writes. -/
inductive Action where
  | deliver (calls : Calls) (company : Company)
  | job (write : JobWrite)

/-- The store, and whether the last delivery has deleted the message. -/
structure State where
  store : Store
  deleted : Bool

/-- The message is in `batchItemFailures`. -/
def Dispatched.retries : Dispatched → Bool
  | .returned (some messageId) => messageId ≠ ""
  | .returned none => false
  | .raised => true

/-- The update of the container. -/
def JobWrite.item : JobWrite → IngestionItem → IngestionItem
  | .picked, item => { item with transcriptStatus := some .pending }
  | .succeeded transcript, item =>
      { item with
        transcriptStatus := some .succeeded
        transcript := some transcript
        transcriptErrorMessage := none }
  | .failed errorMessage, item =>
      { item with
        transcriptStatus := some .failed
        transcriptErrorMessage := some (errorMessage.take 500).toString }

/-- One step of the worker. A message may be delivered once more after it has been deleted. -/
def step (settings : Settings) (message : Message) (state : State) : Action → Option State
  | .deliver calls company =>
      match company with
      | .raisedBefore => some ⟨state.store, false⟩
      | .raisedAfter => some ⟨(dispatch settings state.store message calls).1, false⟩
      | .quiet =>
          let (store, dispatched) := dispatch settings state.store message calls
          some ⟨store, !dispatched.retries⟩
  | .job write =>
      if state.store.jobs = [] then none
      else
        some { state with
          store := { state.store with
            ingestions := state.store.ingestions.update message.key write.item } }

/-- A record with any transcript attributes, before the first delivery. -/
def State.start (key : IngestionKey) (ingestions : Ingestions) (upload : Upload)
    (status : Option TranscriptStatus) (transcript : Option Transcript)
    (errorMessage : Option String) : State :=
  ⟨⟨ingestions.insert key ⟨some upload, status, transcript, errorMessage⟩, []⟩, false⟩

/-- The record has been handed over, or is terminal. -/
def Store.Settled (store : Store) (key : IngestionKey) : Prop :=
  store.jobs ≠ [] ∨ store.ingestions.status key = some .succeeded ∨
    store.ingestions.status key = some .failed

instance (store : Store) (key : IngestionKey) : Decidable (store.Settled key) :=
  inferInstanceAs (Decidable (_ ∨ _))

/-- A delivery that deletes the message leaves the record settled. -/
def KeepsWork (settings : Settings) (message : Message) (state : State) : Action → Prop
  | .job _ => True
  | .deliver calls company =>
      ∀ after ∈ step settings message state (.deliver calls company),
        after.deleted = true → after.store.Settled message.key

/-- The transcription in the process gets to its last write, or is rate limited. -/
def Calls.Finishes (calls : Calls) : Prop :=
  match getTranscriber calls.environment with
  | some error => error.kind = .rateLimit
  | none => calls.transcription.recordRead = true ∧ calls.transcription.write ≠ .lost

/-- Unless a job has been accepted, the record is not marked when it is read, and where this
delivery marks it the work goes to AWS Batch or finishes. -/
def HandsOver (message : Message) (state : State) : Action → Prop
  | .job _ => True
  | .deliver calls company =>
      company = .quiet → calls.recordRead = true → state.store.jobs = [] →
        match state.store.ingestions.status message.key with
        | some .succeeded => True
        | some .pending => False
        | none | some .failed =>
            calls.mark = .none ∨ calls.mark = .retried →
              calls.environment.backend = "batch" ∨ calls.Finishes

/-! ## What a dispatch leaves -/

variable {settings : Settings} {message : Message} {store : Store} {calls : Calls}

/-- The message is deleted only if the record is settled. -/
def Keeps (key : IngestionKey) (result : Store × Dispatched) : Prop :=
  result.2.retries = false → result.1.Settled key

/-- A message that is returned is retried. -/
theorem keeps_returned (store : Store) :
    Keeps message.key (store, .returned (some message.messageId)) := by
  intro deleted
  exact absurd (decide_eq_true message.identified) (by rw [Dispatched.retries] at deleted; simp_all)

theorem keeps_raised (store : Store) : Keeps message.key (store, .raised) := by
  intro deleted
  cases deleted

/-- A message that is deleted needs a record that is settled. -/
theorem keeps_deleted_iff {key : IngestionKey} (store : Store) :
    Keeps key (store, .returned none) ↔ store.Settled key :=
  ⟨fun keeps => keeps rfl, fun settled _ => settled⟩

/-- A record that is marked, without a job, is not settled. -/
theorem not_settled {key : IngestionKey} {ingestions : Ingestions}
    (marked : ingestions.status key = some .pending) : ¬ Store.Settled ⟨ingestions, []⟩ key := by
  rintro (accepted | succeeded | failed)
  · exact accepted rfl
  · rw [marked] at succeeded
    cases succeeded
  · rw [marked] at failed
    cases failed

/-- A submission keeps the work. -/
theorem keeps_dispatchBatch (upload : Upload) (submission : Submission) :
    Keeps message.key (dispatchBatch settings store message upload submission) := by
  cases submission with
  | returned =>
      intro _
      exact Or.inl (List.append_ne_nil_of_right_ne_nil _ (List.cons_ne_nil _ _))
  | raised accepted => exact keeps_returned _

/-- A transcription of a marked record keeps the work if and only if it finishes. -/
theorem keeps_dispatchTranscription_iff {ingestions : Ingestions}
    (recorded : ingestions.Recorded message.key)
    (marked : ingestions.status message.key = some .pending) :
    Keeps message.key
        (dispatchTranscription ⟨ingestions, []⟩ message calls.environment calls.transcription) ↔
      calls.Finishes := by
  unfold dispatchTranscription Calls.Finishes
  cases built : getTranscriber calls.environment with
  | some error =>
      dsimp only
      by_cases limited : error.kind = .rateLimit
      · rw [if_pos limited]
        exact iff_of_true (keeps_returned _) limited
      · rw [if_neg limited]
        exact iff_of_false (fun keeps => not_settled marked (keeps rfl)) limited
  | none =>
      dsimp only
      by_cases read : calls.transcription.recordRead = true
      · obtain ⟨updated, terminal, written⟩ := transcribeIngestion_write recorded read
        rw [written]
        cases fault : calls.transcription.write with
        | lost =>
            exact iff_of_false (fun keeps => not_settled marked (keeps rfl)) fun ends => ends.2 rfl
        | none | unacked | retried =>
            refine iff_of_true ?_ ⟨read, by decide⟩
            exact (keeps_deleted_iff ⟨updated, []⟩).mpr (Or.inr terminal)
      · have unread : transcribeIngestion ingestions message.key calls.transcription =
            (ingestions, some clientError) := if_pos (Bool.eq_false_iff.mpr read)
        rw [unread]
        exact iff_of_false (fun keeps => not_settled marked (keeps rfl)) fun ends => read ends.1

/-- What a dispatch leaves as it is: jobs stay accepted, and the item stays readable. -/
structure Preserves (key : IngestionKey) (before after : Store) : Prop where
  jobs : before.jobs ≠ [] → after.jobs ≠ []
  recorded : before.ingestions.Recorded key → after.ingestions.Recorded key

variable (settings message store) in
theorem preserves_dispatchBatch (upload : Upload) (submission : Submission) :
    Preserves message.key store (dispatchBatch settings store message upload submission).1 := by
  have kept : (dispatchBatch settings store message upload submission).1 =
      { store with
        jobs :=
          if submission.accepted then store.jobs ++ [batchJob settings message.key upload.s3Key]
          else store.jobs } := by
    cases submission <;> rfl
  rw [kept]
  refine ⟨fun accepted => ?_, fun recorded => recorded⟩
  dsimp only
  split
  · exact List.append_ne_nil_of_left_ne_nil accepted _
  · exact accepted

variable (message store) in
theorem preserves_dispatchTranscription (environment : BackendEnvironment)
    (transcription : TranscriptionCalls) :
    Preserves message.key store
      (dispatchTranscription store message environment transcription).1 := by
  unfold dispatchTranscription
  cases getTranscriber environment with
  | some error =>
      dsimp only
      split <;> exact ⟨fun accepted => accepted, fun recorded => recorded⟩
  | none =>
      dsimp only
      split
      · split <;> exact ⟨fun accepted => accepted, transcribeIngestion_recorded⟩
      · exact ⟨fun accepted => accepted, transcribeIngestion_recorded⟩

theorem preserves_markAndDispatch (upload : Upload) :
    Preserves message.key store (markAndDispatch settings store message upload calls).1 := by
  let kept : Store := ⟨(putIngestions calls.mark store.ingestions
    (store.ingestions.setTranscriptPending message.key)).1, store.jobs⟩
  have marked : store.ingestions.Recorded message.key → kept.ingestions.Recorded message.key :=
    fun recorded => putIngestions_recorded recorded (recorded.update fun _ => rfl)
  unfold markAndDispatch
  dsimp only
  split
  · exact ⟨fun accepted => accepted, marked⟩
  · split
    · have handed := preserves_dispatchBatch settings message kept upload calls.submission
      exact ⟨handed.jobs, fun recorded => handed.recorded (marked recorded)⟩
    · have handed := preserves_dispatchTranscription message kept calls.environment
        calls.transcription
      exact ⟨handed.jobs, fun recorded => handed.recorded (marked recorded)⟩

theorem preserves_dispatch :
    Preserves message.key store (dispatch settings store message calls).1 := by
  have same : Preserves message.key store store :=
    ⟨fun accepted => accepted, fun recorded => recorded⟩
  unfold dispatch
  split
  · exact same
  · split
    · exact same
    · exact same
    · split
      · exact same
      · split
        · exact same
        · exact preserves_markAndDispatch _

variable (settings calls) in
/-- A delivery that marks the record keeps the work if and only if it hands it over. -/
theorem keeps_markAndDispatch_iff {ingestions : Ingestions}
    (recorded : ingestions.Recorded message.key) (upload : Upload) :
    Keeps message.key (markAndDispatch settings ⟨ingestions, []⟩ message upload calls) ↔
      (calls.mark = .none ∨ calls.mark = .retried →
        calls.environment.backend = "batch" ∨ calls.Finishes) := by
  have marked : (ingestions.setTranscriptPending message.key).Recorded message.key :=
    recorded.update fun _ => rfl
  unfold markAndDispatch
  cases mark : calls.mark with
  | lost | unacked =>
      refine iff_of_true (keeps_raised _) ?_
      rintro (answered | answered) <;> cases answered
  | none | retried =>
      simp only [putIngestions, ConditionalWrite.put, if_true]
      by_cases batch : calls.environment.backend = "batch"
      · rw [if_pos batch]
        exact iff_of_true (keeps_dispatchBatch upload _) fun _ => Or.inl batch
      · rw [if_neg batch, keeps_dispatchTranscription_iff marked (by simp)]
        simp [batch]

/-- A dispatch without a job keeps the work if and only if it hands it over. -/
theorem keeps_dispatch_iff {ingestions : Ingestions} (recorded : ingestions.Recorded message.key) :
    Keeps message.key (dispatch settings ⟨ingestions, []⟩ message calls) ↔
      (calls.recordRead = true →
        match ingestions.status message.key with
        | some .succeeded => True
        | some .pending => False
        | none | some .failed =>
            calls.mark = .none ∨ calls.mark = .retried →
              calls.environment.backend = "batch" ∨ calls.Finishes) := by
  by_cases read : calls.recordRead = true
  · obtain ⟨upload, fetched⟩ := recorded.get
    have handed := keeps_markAndDispatch_iff settings calls recorded upload
    unfold dispatch
    rw [if_neg (by simp [read]), fetched]
    dsimp only
    generalize marked : ingestions.status message.key = status
    cases status with
    | none =>
        rw [if_neg (by simp), if_neg (by simp), handed]
        exact ⟨fun hands _ => hands, fun hands => hands read⟩
    | some status =>
        cases status with
        | succeeded =>
            rw [if_pos rfl]
            have settled : Store.Settled ⟨ingestions, []⟩ message.key := Or.inr (Or.inl marked)
            exact iff_of_true (fun _ => settled) fun _ => trivial
        | pending =>
            rw [if_neg (by simp), if_pos rfl]
            exact iff_of_false (fun keeps => not_settled marked (keeps rfl)) fun hands => hands read
        | failed =>
            rw [if_neg (by simp), if_neg (by simp), handed]
            exact ⟨fun hands _ => hands, fun hands => hands read⟩
  · have raised : dispatch settings ⟨ingestions, []⟩ message calls = (⟨ingestions, []⟩, .raised) :=
      if_pos (Bool.eq_false_iff.mpr read)
    rw [raised]
    exact iff_of_true (keeps_raised _) fun answered => absurd answered read

/-! ## Every sequence of deliveries -/

/-- The item of the message is readable. -/
def State.Recorded (key : IngestionKey) (state : State) : Prop :=
  state.store.ingestions.Recorded key

theorem step_recorded (before : State) (action : Action) (after : State)
    (recorded : before.Recorded message.key)
    (taken : step settings message before action = some after) : after.Recorded message.key := by
  cases action with
  | deliver calls company =>
      cases company with
      | raisedBefore =>
          cases taken
          exact recorded
      | quiet | raisedAfter =>
          cases taken
          exact preserves_dispatch.recorded recorded
  | job write =>
      simp only [step] at taken
      split at taken
      · cases taken
      · cases taken
        exact recorded.update fun item => by cases write <;> rfl

/-- A delivery on its own keeps the work if its dispatch does. -/
theorem keepsWork_quiet_iff {state : State} :
    KeepsWork settings message state (.deliver calls .quiet) ↔
      Keeps message.key (dispatch settings state.store message calls) := by
  constructor
  · intro keeps deleted
    exact keeps ⟨(dispatch settings state.store message calls).1,
      !(dispatch settings state.store message calls).2.retries⟩ rfl
        ((Bool.not_eq_true' _).mpr deleted)
  · rintro keeps after taken deleted
    cases taken
    exact keeps ((Bool.not_eq_true' _).mp deleted)

/-- A delivery keeps the work if and only if it hands it over. -/
theorem keepsWork_iff {state : State} {action : Action} (recorded : state.Recorded message.key) :
    KeepsWork settings message state action ↔ HandsOver message state action := by
  cases action with
  | job write => exact Iff.rfl
  | deliver calls company =>
      cases company with
      | raisedBefore | raisedAfter =>
          refine iff_of_true ?_ fun quiet => Company.noConfusion quiet
          rintro after taken deleted
          cases taken
          cases deleted
      | quiet =>
          rw [keepsWork_quiet_iff]
          obtain ⟨⟨ingestions, jobs⟩, deleted⟩ := state
          cases jobs with
          | nil =>
              rw [keeps_dispatch_iff recorded]
              exact ⟨fun hands _ read _ => hands read, fun hands read => hands rfl read rfl⟩
          | cons job others =>
              have accepted : job :: others ≠ [] := List.cons_ne_nil _ _
              refine iff_of_true (fun _ => ?_) fun _ _ none => absurd none accepted
              exact Or.inl (preserves_dispatch.jobs accepted)

/-- **Retried work is not dropped.** For every record, whatever its transcript attributes,
and every sequence of deliveries of its message, each delivery that deletes the message
leaves the record settled if and only if each delivery hands its work over. -/
theorem worker_keepsWork_iff (settings : Settings) (message : Message) (ingestions : Ingestions)
    (upload : Upload) (status : Option TranscriptStatus) (transcript : Option Transcript)
    (errorMessage : Option String) (actions : List Action) :
    Meets (step settings message) (fun _ => KeepsWork settings message) []
        (State.start message.key ingestions upload status transcript errorMessage) actions ↔
      Meets (step settings message) (fun _ => HandsOver message) []
        (State.start message.key ingestions upload status transcript errorMessage) actions := by
  refine Meets.congr step_recorded (fun _ _ _ => keepsWork_iff) ?_
  exact ⟨_, upload, AList.lookup_insert _, rfl⟩

/-! ## A submission that fails -/

def sampleSettings : Settings := ⟨"audio-uploads", "ingestions"⟩

def sampleMessage : Message := ⟨"m", ⟨"u", "i"⟩, by decide⟩

/-- A delivery whose dispatch goes to AWS Batch, with the submission as given. -/
def deliverBatch (submission : Submission) : Action :=
  .deliver ⟨true, .none, ⟨"batch", "", "", false, none⟩, submission,
    ⟨true, none, .error clientError, .none⟩⟩ .quiet

/-- A fresh record. -/
def sampleStart : State :=
  .start ⟨"u", "i"⟩ ∅ ⟨"a.wav", "audio/u/i/a.wav"⟩ none none none

/-- The submission fails, and the next delivery deletes the message with the record marked
and no job. -/
theorem submission_dropped :
    ¬ ∀ (settings : Settings) (message : Message) (ingestions : Ingestions) (upload : Upload)
      (status : Option TranscriptStatus) (transcript : Option Transcript)
      (errorMessage : Option String) (actions : List Action),
      Meets (step settings message) (fun _ => KeepsWork settings message) []
        (State.start message.key ingestions upload status transcript errorMessage) actions := by
  intro always
  have reached : (step sampleSettings sampleMessage sampleStart
      (deliverBatch (.raised false))).map (fun marked =>
        (step sampleSettings sampleMessage marked (deliverBatch .returned)).map fun after =>
          (after.deleted, decide (after.store.Settled sampleMessage.key))) =
            some (some (true, false)) := by
    decide +kernel
  obtain ⟨marked, failed, again⟩ := Option.map_eq_some_iff.mp reached
  obtain ⟨after, skipped, unsettled⟩ := Option.map_eq_some_iff.mp again
  obtain ⟨deleted, unsettled⟩ := Prod.mk.inj unsettled
  obtain ⟨-, later⟩ := always sampleSettings sampleMessage ∅ ⟨"a.wav", "audio/u/i/a.wav"⟩ none none
    none [deliverBatch (.raised false), deliverBatch .returned]
  have settled := (later marked failed).1 after skipped deleted
  exact of_decide_eq_false unsettled settled

end Panakoes.TranscribeWorker
