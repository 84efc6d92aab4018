import Panakoes.TranscriberStream.Session

/-! # Reading the live transcript back

The transcriber appends the text of each pass to the session row, and the router
answers a `transcript-request` from the same row. The writer accumulates in
`last_transcript_text`; the reader looks for `last_transcript`, an attribute that
no service writes.
-/

namespace Panakoes.Streaming

open PyJson (get getD set orElse getD_set_self getD_set_of_ne)
open TranscriberStream

variable {row : List (String × PyJson)} {sessionId : String} {tokens : List AsrToken}

/-- An attribute of an item, if it has a value. -/
def optionalAttribute (name : String) (value : Option PyJson) : List (String × PyJson) :=
  (value.map fun value => (name, value)).toList

/-- The row as an item of the table. -/
def SessionRow.attributes (row : SessionRow) (sessionId : String) : List (String × PyJson) :=
  [("session_id", .str sessionId), ("connection_id", .str row.connectionId),
    ("status", .str row.status), ("user_id", .str row.userId), ("tenant_id", .str row.tenantId),
    ("role", .str row.role), ("connected_at", .str row.connectedAt),
    ("ttl_epoch_seconds", .int row.ttlEpochSeconds)] ++
    optionalAttribute "parent_session_id" (row.parentSessionId.map .str) ++
    optionalAttribute "prompt_seed_text" (row.promptSeedText.map .str) ++
    optionalAttribute "frame_queue_url" (row.frameQueueUrl.map .str) ++
    optionalAttribute "pool_queue_id" (row.poolQueueId.map .int) ++
    optionalAttribute "disconnected_at" (row.disconnectedAt.map .str)

/-- A write of the row that succeeds: by a pass of the transcriber, by its
finalize path, by the router's `$disconnect` or by the spawner. -/
inductive RowUpdate where
  | pass (tokens : List AsrToken) (audioUpto : ℚ) (now : String)
  | final (status : String) (audioUpto : ℚ) (now : String)
  | disconnect (now : String)
  | spawn (queueUrl : String) (poolId : ℤ)

/-- The row after a write. -/
def applyUpdate (sessionId : String) (row : List (String × PyJson)) :
    RowUpdate → List (String × PyJson)
  | .pass tokens audioUpto now => updateLastTranscriptTokens row tokens audioUpto ⟨true, now⟩
  | .final status audioUpto now => endedRow row status (transcriptKey sessionId) audioUpto now
  | .disconnect now => set (set row "status" (.str "disconnected")) "disconnected_at" (.str now)
  | .spawn queueUrl poolId =>
      set (set (set row "frame_queue_url" (.str queueUrl)) "pool_queue_id" (.int poolId)) "status"
        (.str "spawning-gpu")

/-- The row of a session after `$connect` and the writes that followed. -/
def sessionItem (sessionId : String) (request : ConnectRequest) (updates : List RowUpdate) :
    List (String × PyJson) :=
  updates.foldl (applyUpdate sessionId) ((connectItem sessionId request).attributes sessionId)

/-- The body of the router's answer. -/
def transcriptResponse (transcript : PyJson) : PyJson :=
  .dict [("route", .str "transcript-request"), ("transcript", transcript)]

/-- `_route_transcript_request`. -/
def routeTranscriptRequest (row : List (String × PyJson)) : PyJson :=
  transcriptResponse (orElse (get row "last_transcript") (.str ""))

/-- The texts of the tokens, one after the other. -/
def tokensText (tokens : List AsrToken) : String := String.join (tokens.map AsrToken.text)

/-- The texts that the passes have committed, in order. -/
def committedText : List RowUpdate → String
  | [] => ""
  | .pass tokens _ _ :: rest => tokensText tokens ++ committedText rest
  | .final _ _ _ :: rest | .disconnect _ :: rest | .spawn _ _ :: rest => committedText rest

/-! ## What the row holds -/

/-- Leaving out the empty texts makes no difference. -/
theorem appendedText_eq (tokens : List AsrToken) : appendedText tokens = tokensText tokens := by
  unfold appendedText tokensText
  induction tokens with
  | nil => rfl
  | cons token rest ih =>
      rw [List.map_cons, String.join_cons]
      by_cases silent : token.text = ""
      · rw [List.filter_cons_of_neg (by simpa using silent), ih, silent, String.empty_append]
      · rw [List.filter_cons_of_pos (by simpa using silent), String.join_cons, ih]

/-- The text is in the writer's attribute, and the reader's attribute is not
there. -/
structure Holds (row : List (String × PyJson)) (text : String) : Prop where
  written : getD row "last_transcript_text" (.str "") = .str text
  unwritten : get row "last_transcript" = .none

/-- A write of other attributes. -/
theorem Holds.set {text key : String} {value : PyJson} (holds : Holds row text)
    (other : key ∉ ["last_transcript_text", "last_transcript"]) :
    Holds (PyJson.set row key value) text := by
  simp only [List.mem_cons, List.not_mem_nil, or_false, not_or] at other
  obtain ⟨unwritten, unread⟩ := other
  exact ⟨(getD_set_of_ne (Ne.symm unwritten)).trans holds.written,
    (getD_set_of_ne (Ne.symm unread)).trans holds.unwritten⟩

theorem orElse_str (text : String) : orElse (.str text) (.str "") = .str text := by
  by_cases empty : text = ""
  · rw [empty]
    rfl
  · exact if_pos (decide_eq_true empty)

/-- A pass appends its text. -/
theorem Holds.pass {text : String} (holds : Holds row text) (tokens : List AsrToken)
    (audioUpto : ℚ) (now : String) :
    Holds (updateLastTranscriptTokens row tokens audioUpto ⟨true, now⟩)
      (text ++ tokensText tokens) := by
  rw [← appendedText_eq]
  unfold updateLastTranscriptTokens
  split
  · rename_i silent
    rw [appendedText, silent]
    simpa using holds
  · have item : lastTranscriptItem row tokens audioUpto now =
        some (PyJson.set (PyJson.set (PyJson.set row "last_transcript_text"
          (.str (text ++ appendedText tokens))) "last_processed_upto" (.float (some audioUpto)))
          "updated_at" (.str now)) := by
      simp only [lastTranscriptItem, holds.written, orElse_str]
    rw [if_pos rfl, item, Option.getD_some]
    have appended : Holds (PyJson.set row "last_transcript_text"
        (.str (text ++ appendedText tokens))) (text ++ appendedText tokens) :=
      ⟨getD_set_self, (getD_set_of_ne (by decide)).trans holds.unwritten⟩
    exact (appended.set (by decide)).set (by decide)

/-- A write appends what it commits. -/
theorem Holds.applyUpdate {text : String} (holds : Holds row text) (update : RowUpdate) :
    Holds (applyUpdate sessionId row update) (text ++ committedText [update]) := by
  cases update with
  | pass tokens audioUpto now =>
      rw [committedText, committedText, String.append_empty]
      exact holds.pass tokens audioUpto now
  | final status audioUpto now =>
      rw [committedText, committedText, String.append_empty]
      exact ((((holds.set (by decide)).set (by decide)).set (by decide)).set (by decide)).set
        (by decide)
  | disconnect now =>
      rw [committedText, committedText, String.append_empty]
      exact (holds.set (by decide)).set (by decide)
  | spawn queueUrl poolId =>
      rw [committedText, committedText, String.append_empty]
      exact ((holds.set (by decide)).set (by decide)).set (by decide)

theorem committedText_cons (update : RowUpdate) (rest : List RowUpdate) :
    committedText (update :: rest) = committedText [update] ++ committedText rest := by
  cases update <;> simp [committedText]

theorem Holds.run {text : String} (holds : Holds row text) (sessionId : String)
    (updates : List RowUpdate) :
    Holds (updates.foldl (Streaming.applyUpdate sessionId) row) (text ++ committedText updates) := by
  induction updates generalizing row text with
  | nil =>
      rw [committedText, String.append_empty]
      exact holds
  | cons update rest ih =>
      rw [committedText_cons, ← String.append_assoc]
      exact ih (holds.applyUpdate update)

/-- The row that `$connect` writes has neither attribute. -/
theorem holds_connect (sessionId : String) (request : ConnectRequest) :
    Holds ((connectItem sessionId request).attributes sessionId) "" := by
  unfold SessionRow.attributes connectItem
  dsimp only
  cases nonempty request.parentSessionId <;> cases nonempty request.promptSeedText <;>
    exact ⟨rfl, rfl⟩

/-- **Writer.** The writer's attribute holds the texts of all passes. -/
theorem last_transcript_text_written (sessionId : String) (request : ConnectRequest)
    (updates : List RowUpdate) :
    getD (sessionItem sessionId request updates) "last_transcript_text" (.str "") =
      .str (committedText updates) := by
  have held := (holds_connect sessionId request).run sessionId updates
  rw [String.empty_append] at held
  exact held.written

theorem transcriptResponse_inj {text other : String} :
    transcriptResponse (.str text) = transcriptResponse (.str other) ↔ text = other := by
  simp [transcriptResponse]

/-- The reader finds nothing. -/
theorem routeTranscriptRequest_sessionItem (sessionId : String) (request : ConnectRequest)
    (updates : List RowUpdate) :
    routeTranscriptRequest (sessionItem sessionId request updates) =
      transcriptResponse (.str "") := by
  have unwritten : get (sessionItem sessionId request updates) "last_transcript" = .none :=
    ((holds_connect sessionId request).run sessionId updates).unwritten
  rw [routeTranscriptRequest, unwritten]
  rfl

/-- **Reader.** The router returns the texts of all passes exactly if there is no
text. -/
theorem transcript_returned_iff (sessionId : String) (request : ConnectRequest)
    (updates : List RowUpdate) :
    routeTranscriptRequest (sessionItem sessionId request updates) =
        transcriptResponse (.str (committedText updates)) ↔
      committedText updates = "" := by
  rw [routeTranscriptRequest_sessionItem, transcriptResponse_inj]
  exact eq_comm

/-- The word that a pass has committed is not returned. -/
theorem transcript_not_returned :
    ¬ ∀ (sessionId : String) (request : ConnectRequest) (updates : List RowUpdate),
      routeTranscriptRequest (sessionItem sessionId request updates) =
        transcriptResponse (.str (committedText updates)) := by
  intro always
  have returned := always "session-1" ⟨"user-1", "tenant-1", "user", "t0", 0, none, none⟩
    [.pass [⟨" hello", none, none, none⟩] 1 "t1"]
  rw [routeTranscriptRequest_sessionItem, transcriptResponse_inj] at returned
  exact absurd returned (by decide +kernel)

end Panakoes.Streaming
