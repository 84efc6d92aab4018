import Panakoes.GpuSpawner.SpawnCallback
import Panakoes.TranscribeWorker.Batch

/-! # The spawn queue

The gpu-spawner handles the messages of a poll one after another. What the callback raises stays with
its message, and so does a body that is no JSON. A body that is JSON of something else than an object
raises, and so does one with an integer that Python refuses to read; the messages behind it are then
not handled. The router, the worker and the spawner isolate the records of a batch that they can
read.
-/

namespace Panakoes.GpuSpawner

open BatchLoop

variable {σ : Type} (read : JsonText.Numeral → Option ℚ) (str : PyJson → String)
  (spawn : σ → SpawnIntent → σ × Bool)

/-- `str(value or "")`. -/
def strOrEmpty (value : PyJson) : String := if value.truthy then str value else ""

/-- `SpawnIntent.from_event_detail`, with `none` for the `ValueError`. -/
def SpawnIntent.fromEventDetail (detail : List (String × PyJson)) : Option SpawnIntent :=
  (PyJson.get detail "session_id").nonemptyStr?.map fun sessionId =>
    ⟨sessionId, strOrEmpty str (PyJson.get detail "user_id"),
      strOrEmpty str (PyJson.get detail "tenant_id")⟩

/-- What the callback works on, and the receipts of the messages that have been deleted. -/
structure SpawnQueue (σ : Type) where
  spawned : σ
  deleted : List String

/-- The callback, and the deletion of the message if the callback returns. -/
def SpawnQueue.dispatch (queue : SpawnQueue σ) (intent : SpawnIntent) (receipt : String) :
    SpawnQueue σ :=
  let (spawned, returned) := spawn queue.spawned intent
  ⟨spawned, if returned then queue.deleted ++ [receipt] else queue.deleted⟩

/-- The part of `process_message` behind `json.loads`. -/
def processEnvelope (queue : SpawnQueue σ) (receipt : String) : PyJson →
    Except PyError (SpawnQueue σ)
  | .dict envelope =>
      match PyJson.get envelope "detail" with
      | .dict detail =>
          match SpawnIntent.fromEventDetail str detail with
          | none => .ok queue
          | some intent => .ok (queue.dispatch spawn intent receipt)
      | _ => .ok queue
  | _ => .error .attributeError

/-- `process_message`. -/
def processMessage (queue : SpawnQueue σ) (message : List (String × PyJson)) :
    Except PyError (SpawnQueue σ) :=
  match PyJson.get message "Body", PyJson.get message "ReceiptHandle" with
  | .str body, .str receipt =>
      match JsonText.loads read body with
      | .error .jsonDecodeError => .ok queue
      | .error error => .error error
      | .ok envelope => processEnvelope str spawn queue receipt envelope
  | _, _ => .ok queue

/-- One round of `poll_once`. -/
def pollMessage (queue : SpawnQueue σ) (message : List (String × PyJson)) :
    Except PyError (SpawnQueue σ × ℕ) :=
  (processMessage read str spawn queue message).map fun after => (after, 1)

/-- `poll_once` behind `receive_message`. -/
def pollOnce (queue : SpawnQueue σ) (messages : List (List (String × PyJson))) :
    Except PyError (SpawnQueue σ × ℕ) :=
  (rounds (pollMessage read str spawn) queue messages).map fun result =>
    (result.1, messages.length)

/-- The spawner, as a consumer of messages. -/
def consumer : Consumer (SpawnQueue σ) (List (List (String × PyJson))) ℕ PyError where
  process := pollOnce read str spawn
  parts messages := messages.map fun message => [message]
  combine := List.sum

/-- A message whose body, if it is read, is an object or no JSON. -/
def ReadsEnvelope (message : List (String × PyJson)) : Prop :=
  ∀ body receipt, PyJson.get message "Body" = .str body →
    PyJson.get message "ReceiptHandle" = .str receipt →
      JsonText.loads read body = .error .jsonDecodeError ∨
        ∃ envelope, JsonText.loads read body = .ok (.dict envelope)

variable {read str spawn} {queue : SpawnQueue σ} {messages : List (List (String × PyJson))}

theorem isOk_processEnvelope_iff (receipt : String) (envelope : PyJson) :
    (processEnvelope str spawn queue receipt envelope).isOk = true ↔
      ∃ entries, envelope = .dict entries := by
  cases envelope with
  | dict entries =>
      refine iff_of_true ?_ ⟨entries, rfl⟩
      unfold processEnvelope
      dsimp only
      split
      · split <;> rfl
      · rfl
  | none | bool | int | float | str | list =>
      refine iff_of_false Bool.false_ne_true ?_
      rintro ⟨_, same⟩
      cases same

/-- A message raises unless it can be read. -/
theorem isOk_processMessage_iff (message : List (String × PyJson)) :
    (processMessage read str spawn queue message).isOk = true ↔ ReadsEnvelope read message := by
  unfold processMessage ReadsEnvelope
  split
  · rename_i body receipt bodyHeld receiptHeld
    have known : ∀ holds : String → Prop,
        (∀ other handle, PyJson.get message "Body" = .str other →
          PyJson.get message "ReceiptHandle" = .str handle → holds other) ↔ holds body := by
      intro holds
      constructor
      · exact fun all => all body receipt bodyHeld receiptHeld
      · intro held other _ same _
        cases bodyHeld.symm.trans same
        exact held
    rw [known fun body => JsonText.loads read body = .error .jsonDecodeError ∨
      ∃ envelope, JsonText.loads read body = .ok (.dict envelope)]
    cases loaded : JsonText.loads read body with
    | ok envelope =>
        refine (isOk_processEnvelope_iff receipt envelope).trans ?_
        constructor
        · rintro ⟨entries, rfl⟩
          exact Or.inr ⟨entries, rfl⟩
        · rintro (failed | ⟨entries, same⟩)
          · cases failed
          · cases same
            exact ⟨entries, rfl⟩
    | error error =>
        rcases JsonText.loads_error loaded with rfl | rfl
        · exact iff_of_true rfl (Or.inl rfl)
        · refine iff_of_false Bool.false_ne_true ?_
          rintro (failed | ⟨entries, same⟩)
          · cases failed
          · cases same
  · rename_i other
    exact iff_of_true rfl fun body receipt bodyHeld receiptHeld =>
      absurd receiptHeld (other body receipt bodyHeld)

/-- What the rounds put out is the number of messages. -/
theorem sum_rounds {after : SpawnQueue σ} {outputs : List ℕ}
    (polled : rounds (pollMessage read str spawn) queue messages = .ok (after, outputs)) :
    outputs.sum = messages.length := by
  induction messages generalizing queue outputs with
  | nil =>
      cases polled
      rfl
  | cons message messages ih =>
      obtain ⟨next, output, rest, first, later, rfl⟩ := rounds_cons_eq_ok.mp polled
      obtain ⟨_, _, same⟩ := Except.map_eq_ok.mp first
      cases same
      rw [List.sum_cons, ih later, List.length_cons, Nat.add_comm]

/-- **The messages of a poll are isolated.** The messages are handled as one after another if and
only if all of them can be read. -/
theorem isolates_iff : (consumer read str spawn).Isolates queue messages ↔
    ∀ message ∈ messages, ReadsEnvelope read message := by
  have alone : rounds (consumer read str spawn).process queue
      ((consumer read str spawn).parts messages) =
        rounds (pollMessage read str spawn) queue messages := by
    refine (rounds_map _ _).trans ?_
    congr 1
    funext queue message
    have single : pollOnce read str spawn queue [message] =
        (rounds (pollMessage read str spawn) queue [message]).map fun result =>
          (result.1, 1) := rfl
    refine single.trans ?_
    rw [rounds, pollMessage]
    cases processMessage read str spawn queue message with
    | error error => rfl
    | ok after => rfl
  have batched : (consumer read str spawn).process queue messages =
      (rounds (pollMessage read str spawn) queue messages).map fun result =>
        (result.1, result.2.sum) := by
    change (rounds (pollMessage read str spawn) queue messages).map _ = _
    cases polled : rounds (pollMessage read str spawn) queue messages with
    | error error => rfl
    | ok result =>
        have total := sum_rounds polled
        exact congrArg (fun count => Except.ok (result.1, count)) total.symm
  rw [Consumer.isolates_iff_of_rounds alone batched]
  refine isOk_rounds_iff (fun _ => True) ?_ (fun _ _ _ _ _ _ => trivial) trivial
  intro reached message _
  rw [pollMessage, Except.isOk_map]
  exact isOk_processMessage_iff message

/-- **Batches are isolated.** With their calls of AWS succeeding, the router, the worker and the
spawner handle a batch as its records one after another, each in a batch of its own, if and only if
they can read all of them. -/
theorem batches_isolated_iff (router : EventRouter.Settings) (now : ℕ → String)
    (routed : EventRouter.World × ℕ) (event : List (String × PyJson))
    (read : JsonText.Numeral → Option ℚ) (worker : TranscribeWorker.Settings)
    (calls : ℕ → TranscribeWorker.Calls) (worked : TranscribeWorker.Store × ℕ)
    (batch : List (String × PyJson)) (str : PyJson → String) (spawn : σ → SpawnIntent → σ × Bool)
    (queue : SpawnQueue σ) (messages : List (List (String × PyJson))) :
    ((EventRouter.consumer router now).Isolates routed event ↔ EventRouter.ReadsEvent event) ∧
      ((TranscribeWorker.consumer read worker calls).Isolates worked batch ↔
        ∀ record ∈ TranscribeWorker.recordsOf batch,
          TranscribeWorker.Readable read worker worked.1 record) ∧
      ((consumer read str spawn).Isolates queue messages ↔
        ∀ message ∈ messages, ReadsEnvelope read message) :=
  ⟨EventRouter.isolates_iff, TranscribeWorker.isolates_iff, isolates_iff⟩

/-- A record of a notification whose bucket is a string. -/
def stringBucket : PyJson := .dict [("s3", .dict [("bucket", .str "audio-uploads")])]

/-- A record of a notification of an upload. -/
def uploadRecord : PyJson :=
  .dict [("s3", .dict [("bucket", .dict [("name", .str "audio-uploads")]),
    ("object", .dict [("key", .str "audio/u-1/i-1/a.wav")])])]

/-- An upload behind a record whose bucket is a string is not handled, and neither is a message
behind one whose body is a list. -/
theorem poison_not_isolated :
    ¬ (EventRouter.consumer ⟨"bus", "panakoes.ingest", "AudioUploaded"⟩
        fun _ => "2026-05-11T00:00:00+00:00").Isolates (⟨∅, [], [], []⟩, 0)
          [("Records", .list [stringBucket, uploadRecord])] ∧
      ¬ (consumer (fun _ => none) (fun _ => "") fun (spawned : List SpawnIntent) intent =>
        (spawned ++ [intent], true)).Isolates ⟨[], []⟩
          [[("Body", .str "[]"), ("ReceiptHandle", .str "r-1")],
            [("Body", .str "\x7b\"detail\": \x7b\"session_id\": \"s-1\"\x7d\x7d"),
              ("ReceiptHandle", .str "r-2")]] := by
  constructor
  · intro isolated
    have reads : EventRouter.ReadsRecord stringBucket :=
      EventRouter.isolates_iff.mp isolated _ List.mem_cons_self
    obtain ⟨_, same⟩ := (reads _ _ rfl rfl).1 rfl
    cases same
  · intro isolated
    have reads := isolates_iff.mp isolated _ List.mem_cons_self
    have loaded : JsonText.loads (fun _ => none) "[]" = .ok (.list []) := by rfl
    rcases reads "[]" "r-1" rfl rfl with failed | ⟨_, same⟩
    · cases loaded.symm.trans failed
    · cases loaded.symm.trans same

end Panakoes.GpuSpawner
