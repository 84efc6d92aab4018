import Panakoes.Foundation.ConditionalWrite
import Panakoes.IngestionApi.IngestionStore

/-! # The transcription of an ingestion

`get_transcriber` picks a backend, and `transcribe_ingestion` reads the audio, runs the
backend and writes the result on the item. An error of the backend, a rate limit too, ends
in the status `failed`; an error of a call to DynamoDB leaves it as it is.
-/

namespace Panakoes.IngestionApi

/-- The exceptions that the handlers tell apart. A rate limit is an error of the transcriber. -/
inductive ExceptionKind where
  | rateLimit
  | transcriber
  | other
  deriving DecidableEq

/-- An exception, with the name of its type and its text. -/
structure Raised where
  kind : ExceptionKind
  typeName : String
  text : String

/-- The environment that `get_transcriber` reads: `TRANSCRIBER_BACKEND`, stripped and in lower
case, the API keys, and how the backend of OpenAI, a package of its own, is imported and built. -/
structure BackendEnvironment where
  backend : String
  groqApiKey : String
  openaiApiKey : String
  openaiInstalled : Bool
  openaiBuilt : Option Raised

/-- A `RuntimeError`. -/
def runtimeError (text : String) : Raised := ⟨.other, "RuntimeError", text⟩

/-- `get_transcriber`: what it raises, if it does. -/
def getTranscriber (environment : BackendEnvironment) : Option Raised :=
  if environment.backend = "groq" then
    if environment.groqApiKey = "" then
      some (runtimeError ("TRANSCRIBER_BACKEND=groq but GROQ_API_KEY is not set; " ++
        "set it to your Groq API key before requesting transcription."))
    else none
  else if environment.backend = "openai" then
    if environment.openaiApiKey = "" then
      some (runtimeError ("TRANSCRIBER_BACKEND=openai but OPENAI_API_KEY is not set; " ++
        "set it to your OpenAI API key before requesting transcription."))
    else if environment.openaiInstalled then environment.openaiBuilt
    else
      some (runtimeError ("TRANSCRIBER_BACKEND=openai but the panakoes-transcriber-openai " ++
        "package is not installed in this service."))
  else
    some (runtimeError (s!"Unknown TRANSCRIBER_BACKEND='{environment.backend}'; " ++
      "supported values are 'groq', 'openai'."))

/-- How the calls of a transcription end. -/
structure TranscriptionCalls where
  recordRead : Bool
  audio : Option Raised
  transcribed : Except Raised Transcript
  write : ConditionalWrite.Fault

/-- The exception of a call to DynamoDB that fails. -/
def clientError : Raised := ⟨.other, "ClientError", ""⟩

/-- The exception of a record that is not valid. -/
def validationError : Raised := ⟨.other, "ValidationError", ""⟩

/-- A write to the table, and what it raises. -/
def putIngestions (fault : ConditionalWrite.Fault) (ingestions updated : Ingestions) :
    Ingestions × Option Raised :=
  let outcome := ConditionalWrite.put fault ingestions updated
  (outcome.table, if outcome.reply = .ok then none else some clientError)

/-- `transcribe_ingestion`: the table it leaves, and what it raises. -/
def transcribeIngestion (ingestions : Ingestions) (key : IngestionKey)
    (calls : TranscriptionCalls) : Ingestions × Option Raised :=
  if calls.recordRead = false then (ingestions, some clientError)
  else
    match ingestions.get key with
    | .invalid => (ingestions, some validationError)
    | .absent => (ingestions, none)
    | .record _ _ =>
        match calls.audio with
        | some error =>
            putIngestions calls.write ingestions
              (ingestions.setTranscriptFailed key s!"audio fetch failed: {error.text}")
        | none =>
            match calls.transcribed with
            | .ok transcript =>
                putIngestions calls.write ingestions
                  (ingestions.setTranscriptSucceeded key transcript)
            | .error error =>
                putIngestions calls.write ingestions
                  (ingestions.setTranscriptFailed key
                    (if error.kind = .other then s!"unexpected error: {error.text}"
                    else s!"{error.typeName}: {error.text}"))

variable {ingestions : Ingestions} {key : IngestionKey} {calls : TranscriptionCalls}

/-- A transcription that reads the record ends with a write of a terminal status. -/
theorem transcribeIngestion_write (recorded : ingestions.Recorded key)
    (read : calls.recordRead = true) :
    ∃ updated : Ingestions,
      (updated.status key = some .succeeded ∨ updated.status key = some .failed) ∧
        transcribeIngestion ingestions key calls =
          putIngestions calls.write ingestions updated := by
  obtain ⟨upload, fetched⟩ := recorded.get
  unfold transcribeIngestion
  rw [if_neg (by simp [read]), fetched]
  dsimp only
  split
  · exact ⟨_, Or.inr (Ingestions.status_setTranscriptFailed _), rfl⟩
  · split
    · exact ⟨_, Or.inl (Ingestions.status_setTranscriptSucceeded _), rfl⟩
    · exact ⟨_, Or.inr (Ingestions.status_setTranscriptFailed _), rfl⟩

/-- The table after a write. -/
theorem putIngestions_table (fault : ConditionalWrite.Fault) (updated : Ingestions) :
    (putIngestions fault ingestions updated).1 =
      if fault = .lost then ingestions else updated := by
  cases fault <;> rfl

theorem putIngestions_recorded {fault : ConditionalWrite.Fault} {updated : Ingestions}
    (before : ingestions.Recorded key) (after : updated.Recorded key) :
    (putIngestions fault ingestions updated).1.Recorded key := by
  rw [putIngestions_table]
  split
  · exact before
  · exact after

/-- A transcription keeps the item readable. -/
theorem transcribeIngestion_recorded (recorded : ingestions.Recorded key) :
    (transcribeIngestion ingestions key calls).1.Recorded key := by
  unfold transcribeIngestion
  split
  · exact recorded
  · split
    · exact recorded
    · exact recorded
    · split
      · exact putIngestions_recorded recorded (recorded.update fun _ => rfl)
      · split
        · exact putIngestions_recorded recorded (recorded.update fun _ => rfl)
        · exact putIngestions_recorded recorded (recorded.update fun _ => rfl)

end Panakoes.IngestionApi
