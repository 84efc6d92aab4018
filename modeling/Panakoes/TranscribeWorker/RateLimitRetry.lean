import Panakoes.TranscribeWorker.Dispatch

/-! # Rate limits of the backend

The contract of the handler has a rate limit return the message, so that SQS delivers it again.
`transcribe_ingestion` catches every `TranscriberError`, a rate limit too: it writes `failed`,
and the worker deletes the message. A rate limit that the constructor of the backend raises
does return the message, with the record marked, and the next delivery takes the mark for
another invocation's.
-/

namespace Panakoes.TranscribeWorker

open IngestionApi

/-- The record is there, neither transcribed nor marked. -/
def Store.isOpen (store : Store) (key : IngestionKey) : Bool :=
  match store.ingestions.get key with
  | .record _ status => status ≠ some .succeeded ∧ status ≠ some .pending
  | .absent | .invalid => false

/-- The calls let a delivery get to `get_transcriber`: the record is read, the mark is written,
and the work does not go to AWS Batch. -/
def Calls.reach (calls : Calls) : Bool :=
  calls.recordRead ∧ (calls.mark = .none ∨ calls.mark = .retried) ∧
    calls.environment.backend ≠ "batch"

/-- The calls let a delivery get to `transcribe` of the backend: it is built, the record is read
again, and the audio is there. -/
def Calls.serve (calls : Calls) : Bool :=
  calls.reach ∧ (getTranscriber calls.environment).isNone ∧ calls.transcription.recordRead ∧
    calls.transcription.audio.isNone

/-- `transcribe` of the backend is called. -/
def asks (store : Store) (key : IngestionKey) (calls : Calls) : Bool :=
  store.isOpen key && calls.serve

/-- The backend answers the delivery with a rate limit, from `transcribe` or from its
constructor. -/
inductive RateLimited (store : Store) (key : IngestionKey) (calls : Calls) : Prop where
  | transcribing (error : Raised) (asked : asks store key calls = true)
      (answered : calls.transcription.transcribed = .error error)
      (limited : error.kind = .rateLimit)
  | constructing (error : Raised) (waits : store.isOpen key = true) (reached : calls.reach = true)
      (raised : getTranscriber calls.environment = some error) (limited : error.kind = .rateLimit)

/-- The message is reported for another delivery, the record is not marked as failed, and
another delivery whose calls succeed asks the backend again. -/
structure RetriedAfter (settings : Settings) (message : Message) (store : Store) (calls : Calls) :
    Prop where
  reported : (dispatch settings store message calls).2 = .returned (some message.messageId)
  unfailed : (dispatch settings store message calls).1.ingestions.status message.key ≠ some .failed
  rerun : ∀ again : Calls, again.serve = true →
    asks (dispatch settings store message calls).1 message.key again = true

variable {settings : Settings} {message : Message} {store : Store} {calls : Calls}

/-- A record that is open has been written by an upload. -/
theorem Store.isOpen_iff {key : IngestionKey} :
    store.isOpen key = true ↔
      ∃ upload status, store.ingestions.get key = .record upload status ∧
        status ≠ some .succeeded ∧ status ≠ some .pending := by
  unfold Store.isOpen
  cases store.ingestions.get key with
  | absent | invalid => simp
  | record upload status => simp

/-- A record that has been fetched is recorded. -/
theorem recorded_of_get {ingestions : Ingestions} {key : IngestionKey} {upload : Upload}
    {status : Option TranscriptStatus} (fetched : ingestions.get key = .record upload status) :
    ingestions.Recorded key := by
  unfold Ingestions.get at fetched
  split at fetched
  · cases fetched
  · cases fetched
  · rename_i held
    exact ⟨_, _, held, rfl⟩

variable (settings) in
/-- A delivery that gets to `get_transcriber` transcribes a record that it has marked. -/
theorem dispatch_of_reach (waits : store.isOpen message.key = true)
    (reached : calls.reach = true) :
    dispatch settings store message calls =
      dispatchTranscription
        { store with ingestions := store.ingestions.setTranscriptPending message.key } message
        calls.environment calls.transcription := by
  obtain ⟨upload, status, fetched, unsucceeded, unmarked⟩ := Store.isOpen_iff.mp waits
  obtain ⟨read, mark, inProcess⟩ := of_decide_eq_true reached
  have marked : putIngestions calls.mark store.ingestions
      (store.ingestions.setTranscriptPending message.key) =
        (store.ingestions.setTranscriptPending message.key, none) := by
    obtain mark | mark := mark
    · rw [mark]
      rfl
    · rw [mark]
      rfl
  unfold dispatch
  rw [if_neg (by simp [read]), fetched]
  dsimp only
  rw [if_neg unsucceeded, if_neg unmarked]
  unfold markAndDispatch
  rw [marked]
  exact if_neg inProcess

/-- A transcription that does not get to the backend is the same whatever it would answer. -/
theorem dispatchTranscription_of_not_serve {environment : BackendEnvironment}
    {transcription : TranscriptionCalls}
    (refused : getTranscriber environment = none → transcription.recordRead = true →
      transcription.audio ≠ none)
    (answer : Except Raised Transcript) :
    dispatchTranscription store message environment { transcription with transcribed := answer } =
      dispatchTranscription store message environment transcription := by
  unfold dispatchTranscription
  cases built : getTranscriber environment with
  | some error => rfl
  | none =>
      have same : transcribeIngestion store.ingestions message.key
          { transcription with transcribed := answer } =
            transcribeIngestion store.ingestions message.key transcription := by
        unfold transcribeIngestion
        cases read : transcription.recordRead with
        | false => rfl
        | true =>
            dsimp only
            cases audio : transcription.audio with
            | none => exact absurd audio (refused built read)
            | some error => rfl
      rw [same]

variable (settings message) in
/-- A delivery that does not ask the backend is the same whatever it would answer. -/
theorem dispatch_of_not_asks (unasked : asks store message.key calls = false)
    (answer : Except Raised Transcript) :
    dispatch settings store message
        { calls with transcription := { calls.transcription with transcribed := answer } } =
      dispatch settings store message calls := by
  unfold dispatch
  dsimp only
  by_cases read : calls.recordRead = true
  · rw [if_neg (by simp [read]), if_neg (by simp [read])]
    cases fetched : store.ingestions.get message.key with
    | absent | invalid => rfl
    | record upload status =>
        dsimp only
        by_cases succeeded : status = some .succeeded
        · rw [if_pos succeeded, if_pos succeeded]
        · rw [if_neg succeeded, if_neg succeeded]
          by_cases pending : status = some .pending
          · rw [if_pos pending, if_pos pending]
          · rw [if_neg pending, if_neg pending]
            have waits : store.isOpen message.key = true :=
              Store.isOpen_iff.mpr ⟨upload, status, fetched, succeeded, pending⟩
            have refused : calls.serve = false := by simpa [asks, waits] using unasked
            unfold markAndDispatch
            cases mark : calls.mark with
            | lost | unacked => rfl
            | none | retried =>
                simp only [putIngestions, ConditionalWrite.put, if_true]
                by_cases batch : calls.environment.backend = "batch"
                · rw [if_pos batch, if_pos batch]
                · rw [if_neg batch, if_neg batch]
                  refine dispatchTranscription_of_not_serve (fun built refetched audio => ?_) answer
                  have served : calls.serve = true := by
                    simp [Calls.serve, Calls.reach, read, mark, batch, built, refetched, audio]
                  rw [refused] at served
                  cases served
  · have unread : calls.recordRead = false := Bool.eq_false_iff.mpr read
    rw [if_pos unread, if_pos unread]

/-- A record that has been marked is not open. -/
theorem isOpen_setTranscriptPending {key : IngestionKey} (waits : store.isOpen key = true) :
    Store.isOpen
      { store with ingestions := store.ingestions.setTranscriptPending key } key = false := by
  obtain ⟨_, _, fetched, _, _⟩ := Store.isOpen_iff.mp waits
  have recorded : (store.ingestions.setTranscriptPending key).Recorded key :=
    (recorded_of_get fetched).update fun _ => rfl
  obtain ⟨upload, fetched⟩ := recorded.get
  unfold Store.isOpen
  rw [fetched, Ingestions.status_setTranscriptPending]
  rfl

variable (settings) in
/-- A rate limit of `transcribe` deletes the message. -/
theorem dispatch_of_transcribing {error : Raised}
    (asked : asks store message.key calls = true)
    (answered : calls.transcription.transcribed = .error error) :
    (dispatch settings store message calls).2 = .returned none := by
  obtain ⟨waits, served⟩ := Bool.and_eq_true_iff.mp asked
  obtain ⟨reached, built, read, audio⟩ := of_decide_eq_true served
  obtain ⟨_, _, fetched, _, _⟩ := Store.isOpen_iff.mp waits
  have recorded : (store.ingestions.setTranscriptPending message.key).Recorded message.key :=
    (recorded_of_get fetched).update fun _ => rfl
  rw [dispatch_of_reach settings waits reached]
  obtain ⟨upload, refetched⟩ := recorded.get
  have wrote : transcribeIngestion (store.ingestions.setTranscriptPending message.key) message.key
      calls.transcription =
        putIngestions calls.transcription.write
          (store.ingestions.setTranscriptPending message.key)
          ((store.ingestions.setTranscriptPending message.key).setTranscriptFailed message.key
            (if error.kind = .other then s!"unexpected error: {error.text}"
            else s!"{error.typeName}: {error.text}")) := by
    unfold transcribeIngestion
    rw [if_neg (by simp [read]), refetched, Option.isNone_iff_eq_none.mp audio, answered]
  unfold dispatchTranscription
  rw [Option.isNone_iff_eq_none.mp built]
  dsimp only
  rw [wrote]
  -- A write that is not acknowledged raises a `ClientError`, which is no rate limit.
  cases calls.transcription.write <;> rfl

/-- A rate limit of the constructor returns the message, with the record marked. -/
theorem dispatch_of_constructing {error : Raised} (waits : store.isOpen message.key = true)
    (reached : calls.reach = true) (raised : getTranscriber calls.environment = some error)
    (limited : error.kind = .rateLimit) :
    dispatch settings store message calls =
      ({ store with ingestions := store.ingestions.setTranscriptPending message.key },
        .returned (some message.messageId)) := by
  rw [dispatch_of_reach settings waits reached]
  unfold dispatchTranscription
  rw [raised]
  exact if_pos limited

/-- A delivery whose calls succeed, with Groq. -/
def sampleServed (transcribed : Except Raised Transcript) : Calls :=
  ⟨true, .none, ⟨"groq", "key", "", false, none⟩, .returned, ⟨true, none, transcribed, .none⟩⟩

/-- **Rate limits are not retried.** Whenever the backend answers a delivery with a rate limit,
the message is deleted, or the next delivery does not ask the backend. -/
theorem rateLimited_not_retriedAfter (settings : Settings) (message : Message) (store : Store)
    (calls : Calls) (limited : RateLimited store message.key calls) :
    ¬ RetriedAfter settings message store calls := by
  intro retried
  cases limited with
  | transcribing error asked answered limited =>
      have deleted := dispatch_of_transcribing settings asked answered
      rw [retried.reported] at deleted
      cases deleted
  | constructing error waits reached raised limited =>
      have again := retried.rerun (sampleServed (.error clientError)) (by decide)
      rw [dispatch_of_constructing waits reached raised limited, asks,
        isOpen_setTranscriptPending waits] at again
      cases again

/-- A rate limit of `transcribe`. -/
def sampleLimit : Raised := ⟨.rateLimit, "TranscriberRateLimitError", "slow down"⟩

theorem sampleLimit_limits :
    RateLimited sampleStart.store sampleMessage.key (sampleServed (.error sampleLimit)) :=
  .transcribing sampleLimit (by decide +kernel) rfl rfl

theorem sampleLimit_not_retriedAfter :
    ¬ RetriedAfter sampleSettings sampleMessage sampleStart.store
      (sampleServed (.error sampleLimit)) :=
  rateLimited_not_retriedAfter _ _ _ _ sampleLimit_limits

/-- Groq answers the first delivery with a rate limit, and the message is deleted. -/
theorem sampleLimit_dropped :
    ¬ ∀ (settings : Settings) (message : Message) (store : Store) (calls : Calls),
      RateLimited store message.key calls → RetriedAfter settings message store calls := by
  intro always
  have retried := always sampleSettings sampleMessage sampleStart.store
    (sampleServed (.error sampleLimit)) sampleLimit_limits
  have failed : (dispatch sampleSettings sampleStart.store sampleMessage
      (sampleServed (.error sampleLimit))).1.ingestions.status sampleMessage.key =
        some .failed := by
    decide +kernel
  exact retried.unfailed failed

end Panakoes.TranscribeWorker
