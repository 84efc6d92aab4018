import Panakoes.Streaming.SessionRow
import Panakoes.TranscriberStream.SqsConsumer
import Panakoes.TranscriberStream.Transcribe

/-! # One session of the transcriber

`run()` from the point where the model is loaded and the prompt seed is read:
the consume loop, the shared finalize path, and what they call of `WsPublisher`
and `Persistence`. What the other tasks of the container do while `run()` awaits
something (the keepalive pings, the watchers) is part of the script it is given,
as are the answers of the services. What came before can only have set the
flags of these tasks.
-/

namespace Panakoes.TranscriberStream

open PyJson (get set orElse)

/-! ## State -/

/-- What leaves the process, and entering the finalize path. -/
inductive Effect where
  | posted (message : PyJson)
  | finalize (reason status : String)
  | put (key : String) (snapshot : PyJson)
  | selfTerminate (reason : String)

/-- A call of `process_iter` that returns tokens, or raises. It may have
committed tokens before it raises. -/
inductive Pass where
  | returned (committed : List AsrToken) (processedUpto : ℚ)
  | raised (committed : List AsrToken)
  deriving DecidableEq, Repr

/-- The tokens the ASR commits in a pass. -/
def Pass.committed : Pass → List AsrToken
  | .returned committed _ | .raised committed => committed

/-- What `run()` keeps. `gone` is the publisher's flag, `spot` and `disconnected`
are the events of the two watchers, `row` is the session row. `passes` and `log`
record what has happened. -/
structure State where
  gone : Bool
  spot : Bool
  disconnected : Bool
  lastPartialText : String
  lastPartialSentAt : ℚ
  row : List (String × PyJson)
  passes : List Pass
  log : List Effect

/-- What the container is configured with. -/
structure Service where
  sessionId : String
  dumps : PyJson → String

variable {service : Service} {state next : State}

/-! ## WsPublisher -/

/-- What becomes of `post_to_connection`: accepted, 410, or any other error. -/
inductive PostOutcome where
  | accepted
  | gone
  | failed
  deriving DecidableEq, Repr

/-- A call of `send`. Before it gets the lock, a keepalive ping may have found
the connection gone. -/
structure Post where
  goneBefore : Bool
  outcome : PostOutcome
  deriving DecidableEq, Repr

/-- `WsPublisher.send`. -/
def State.send (state : State) (message : PyJson) (post : Post) : State × Except PyError Bool :=
  if state.gone then (state, .ok false)
  else if post.goneBefore then ({ state with gone := true }, .ok false)
  else
    match post.outcome with
    | .accepted => ({ state with log := state.log ++ [.posted message] }, .ok true)
    | .gone => ({ state with gone := true }, .ok false)
    | .failed => (state, .error .clientError)

/-- Sends that are made whatever the earlier ones return. -/
def State.sendAll (state : State) (posts : ℕ → Post) : List PyJson → State × Except PyError Unit
  | [] => (state, .ok ())
  | message :: rest =>
      match state.send message (posts 0) with
      | (sent, .error error) => (sent, .error error)
      | (sent, .ok _) => sent.sendAll (fun index => posts (index + 1)) rest

/-- Sends up to the first that returns `False`. -/
def State.sendWhileOk (state : State) (posts : ℕ → Post) :
    List PyJson → State × Except PyError Unit
  | [] => (state, .ok ())
  | message :: rest =>
      match state.send message (posts 0) with
      | (sent, .error error) => (sent, .error error)
      | (sent, .ok true) => sent.sendWhileOk (fun index => posts (index + 1)) rest
      | (sent, .ok false) => (sent, .ok ())

/-- `_emit_status`, without extra fields: an error is only logged. -/
def State.emitStatus (state : State) (stage detail ts : String) (post : Post) : State :=
  (state.send (.dict [("type", .str "status"), ("stage", .str stage), ("detail", .str detail),
    ("ts", .str ts)]) post).1

/-! ## Persistence -/

/-- The answer to the writes of one call, and the clock. -/
structure RowWrite where
  accepted : Bool
  now : String
  deriving DecidableEq, Repr

/-- The text that `update_last_transcript_tokens` appends. -/
def appendedText (tokens : List AsrToken) : String :=
  String.join ((tokens.map AsrToken.text).filter (· ≠ ""))

/-- The item that `update_last_transcript_tokens` writes, if the text it reads is
one. -/
def lastTranscriptItem (row : List (String × PyJson)) (tokens : List AsrToken) (audioUpto : ℚ)
    (now : String) : Option (List (String × PyJson)) :=
  match orElse (PyJson.getD row "last_transcript_text" (.str "")) (.str "") with
  | .str earlier =>
      some (set (set (set row "last_transcript_text" (.str (earlier ++ appendedText tokens)))
        "last_processed_upto" (.float (some audioUpto))) "updated_at" (.str now))
  | _ => none

/-- `update_last_transcript_tokens`, on the row. An error is only logged. -/
def updateLastTranscriptTokens (row : List (String × PyJson)) (tokens : List AsrToken)
    (audioUpto : ℚ) (write : RowWrite) : List (String × PyJson) :=
  if (tokens.map AsrToken.text).filter (· ≠ "") = [] then row
  else if write.accepted then (lastTranscriptItem row tokens audioUpto write.now).getD row
  else row

/-- `write_final_tokens`: the object. -/
def snapshot (sessionId : String) (tokens : List AsrToken) (audioUpto : ℚ) : PyJson :=
  .dict [("session_id", .str sessionId), ("audio_processed_upto_seconds", .float (some audioUpto)),
    ("committed_finalized", .bool true), ("tokens", .list (tokens.map AsrToken.entry))]

/-- `write_final_tokens`: the object's key. -/
def transcriptKey (sessionId : String) : String := s!"streaming/{sessionId}/transcript.json"

/-- `write_final_tokens`: the row. -/
def endedRow (row : List (String × PyJson)) (status key : String) (audioUpto : ℚ) (now : String) :
    List (String × PyJson) :=
  set (set (set (set (set row "status" (.str status)) "final_transcript_s3_key" (.str key))
    "audio_processed_upto" (.float (some audioUpto))) "ended_at" (.str now)) "updated_at" (.str now)

/-- `write_final_tokens`. Without the object the row is not written. -/
def State.writeFinalTokens (state : State) (service : Service) (tokens : List AsrToken)
    (audioUpto : ℚ) (status : String) (s3Accepts : Bool) (write : RowWrite) : State :=
  let key := transcriptKey service.sessionId
  if s3Accepts then
    { state with
      log := state.log ++ [.put key (snapshot service.sessionId tokens audioUpto)]
      row :=
        if write.accepted then endedRow state.row status key audioUpto write.now else state.row }
  else state

/-! ## The finalize path -/

/-- What the finalize path meets: the result of `online.finish()`, unless it
raises, the answers of S3 and DynamoDB, and the sends. -/
structure Drain where
  finish : Option (List AsrToken × ℚ)
  goneDuring : Bool
  s3Accepts : Bool
  write : RowWrite
  posts : ℕ → Post

/-- The tokens that are archived and sent last. -/
def Drain.remaining (drain : Drain) : List AsrToken := (drain.finish.map Prod.fst).getD []

/-- The end of the audio that is reported with them. -/
def Drain.audioUpto (drain : Drain) : ℚ := (drain.finish.map Prod.snd).getD 0

/-- One `final-chunk`. -/
def finalChunkMessage (total : ℕ) (chunk : List PyJson × ℕ) : PyJson :=
  .dict [("type", .str "final-chunk"), ("seq", .int chunk.2), ("total", .int total),
    ("tokens", .list chunk.1)]

/-- The `final-chunk` messages of the remaining tokens. -/
def finalChunkMessages (dumps : PyJson → String) (tokens : List AsrToken) : List PyJson :=
  let chunks := chunkTokensForWs dumps tokens wsMaxBytes
  chunks.zipIdx.map (finalChunkMessage chunks.length)

/-- The message that follows them. -/
def endedMessage (reason : String) (expectedChunks : ℕ) (audioUpto : ℚ) : PyJson :=
  .dict [("type", .str "ended"), ("reason", .str reason), ("expected_chunks", .int expectedChunks),
    ("audio_upto", .float (some audioUpto))]

/-- How `run()` ends. -/
inductive Exit where
  | returned
  | raised
  deriving DecidableEq, Repr

/-- `_self_terminate_ec2`, which never raises. -/
def State.selfTerminate (state : State) (reason : String) : State :=
  { state with log := state.log ++ [.selfTerminate reason] }

/-- `_drain_and_exit` once the transcript is written. -/
def State.announce (state : State) (service : Service) (drain : Drain) (reason : String) :
    State × Exit :=
  if state.gone then (state.selfTerminate reason, .returned)
  else
    let chunks := finalChunkMessages service.dumps drain.remaining
    match state.sendAll drain.posts
      (chunks ++ [endedMessage reason chunks.length drain.audioUpto]) with
    | (sent, .error _) => (sent, .raised)
    | (sent, .ok _) => (sent.selfTerminate reason, .returned)

/-- `_drain_and_exit`. -/
def State.drainAndExit (state : State) (service : Service) (drain : Drain)
    (reason status : String) : State × Exit :=
  let entered : State := { state with
    gone := state.gone || drain.goneDuring
    log := state.log ++ [.finalize reason status] }
  let written := entered.writeFinalTokens service drain.remaining drain.audioUpto status
    drain.s3Accepts drain.write
  written.announce service drain reason

/-! ## The consume loop -/

/-- One chunk of `sqs.frames()` and what its turn of the loop meets. `buffer` is
the ASR's unconfirmed hypothesis after the pass, the flags are what the other
tasks have observed by then. -/
structure Turn where
  pcm : Bytes
  pass : Pass
  buffer : List AsrToken
  goneDuring : Bool
  nowMono : ℚ
  partialPost : Post
  finalPosts : ℕ → Post
  write : RowWrite
  spot : Bool
  disconnected : Bool

/-- `text.strip()`. -/
def strip (text : String) : String :=
  String.ofList
    (((text.toList.dropWhile Streaming.isPySpace).reverse.dropWhile Streaming.isPySpace).reverse)

/-- The text of a hypothesis. -/
def hypothesisText (buffer : List AsrToken) : String :=
  strip (" ".intercalate (buffer.map AsrToken.text))

/-- `PARTIAL_MIN_INTERVAL_S`. -/
def partialMinInterval : ℚ := 1 / 2

/-- A `partial` is sent when the hypothesis changes, at most twice a second. -/
def State.sendPartial (state : State) (turn : Turn) : State × Except PyError Bool :=
  let hypothesis := hypothesisText turn.buffer
  if hypothesis ≠ "" ∧ hypothesis ≠ state.lastPartialText ∧
      partialMinInterval ≤ turn.nowMono - state.lastPartialSentAt then
    { state with lastPartialText := hypothesis, lastPartialSentAt := turn.nowMono }.send
      (.dict [("type", .str "partial"), ("text", .str hypothesis)]) turn.partialPost
  else (state, .ok true)

/-- The `final` of a committed token. -/
def finalMessage (processedUpto : ℚ) (token : AsrToken) : PyJson :=
  .dict [("type", .str "final"), ("text", .str token.text), ("start", optionalNumber token.start),
    ("end", optionalNumber token.end_), ("probability", optionalNumber token.probability),
    ("audio_upto", .float (some processedUpto))]

/-- How a turn of the loop ends. -/
inductive TurnEnd where
  | again
  | leave
  | spotDrain
  | raised
  deriving DecidableEq, Repr

/-- What the loop looks at after a turn. -/
def State.turnEnd (state : State) : TurnEnd :=
  if state.spot then .spotDrain
  else if state.disconnected || state.gone then .leave
  else .again

/-- `process_iter` has been called. -/
def State.afterPass (state : State) (turn : Turn) : State :=
  { state with
    gone := state.gone || turn.goneDuring
    spot := state.spot || turn.spot
    disconnected := state.disconnected || turn.disconnected
    passes := state.passes ++ [turn.pass] }

/-- A turn after a pass that has returned. -/
def State.deliver (state : State) (turn : Turn) (committed : List AsrToken) (processedUpto : ℚ) :
    State × TurnEnd :=
  match state.sendPartial turn with
  | (sent, .error _) => (sent, .raised)
  | (sent, .ok _) =>
      match sent.sendWhileOk turn.finalPosts (committed.map (finalMessage processedUpto)) with
      | (told, .error _) => (told, .raised)
      | (told, .ok _) =>
          let written := { told with
            row := updateLastTranscriptTokens told.row committed processedUpto turn.write }
          (written, written.turnEnd)

/-- One turn of the loop. `np.frombuffer` raises when the chunk does not consist
of whole samples; a pass that raises is skipped over. -/
def State.consumeChunk (state : State) (turn : Turn) : State × TurnEnd :=
  if turn.pcm.length % 2 = 1 then (state, .raised)
  else
    match turn.pass with
    | .raised _ => (state.afterPass turn, .again)
    | .returned committed processedUpto =>
        (state.afterPass turn).deliver turn committed processedUpto

/-- The loop, over what `sqs.frames()` yields until it ends or raises. -/
def State.consume (state : State) (framesRaise : Bool) : List Turn → State × TurnEnd
  | [] => (state, if framesRaise then .raised else .leave)
  | turn :: rest =>
      match state.consumeChunk turn with
      | (next, .again) => next.consume framesRaise rest
      | ended => ended

/-! ## The run -/

/-- What a run meets, from the state in which it looks at the watchers before
the consume loop opens. -/
structure Script where
  gone : Bool
  spot : Bool
  disconnected : Bool
  row : List (String × PyJson)
  cancelPost : Post
  warmupPost : Post
  warmupAt : String
  readyPost : Post
  turns : List Turn
  framesRaise : Bool
  drain : Drain

/-- The state the script starts in. -/
def Script.start (script : Script) : State where
  gone := script.gone
  spot := script.spot
  disconnected := script.disconnected
  lastPartialText := ""
  lastPartialSentAt := 0
  row := script.row
  passes := []
  log := []

/-- A watcher's event is set before the consume loop opens. -/
def Script.Cancelled (script : Script) : Prop := script.disconnected = true ∨ script.spot = true

instance : DecidablePred Script.Cancelled :=
  fun script => inferInstanceAs (Decidable (script.disconnected = true ∨ script.spot = true))

/-- The end of `run()` after the loop. -/
def State.finalize (state : State) (service : Service) (drain : Drain) : TurnEnd → State × Exit
  | .raised => (state, .raised)
  | .spotDrain => state.drainAndExit service drain "spot-interrupted" "interrupted"
  | .again | .leave =>
      state.drainAndExit service drain
        (if state.gone then "disconnected_by_410" else "disconnected")
        (if state.gone then "disconnected_by_410" else "ended")

/-- `run()`. -/
def run (service : Service) (script : Script) : State × Exit :=
  if script.Cancelled then
    match script.start.send (.dict [("type", .str "error"),
      ("code", .str "session-cancelled-during-spawn")]) script.cancelPost with
    | (sent, .error _) => (sent, .raised)
    | (sent, .ok _) => (sent, .returned)
  else
    let warm := script.start.emitStatus "warmup-complete" "Warmup pass complete" script.warmupAt
      script.warmupPost
    match warm.send (.dict [("type", .str "ready")]) script.readyPost with
    | (sent, .error _) => (sent, .raised)
    | (sent, .ok _) =>
        let (consumed, ended) := sent.consume script.framesRaise script.turns
        consumed.finalize service script.drain ended

end Panakoes.TranscriberStream
