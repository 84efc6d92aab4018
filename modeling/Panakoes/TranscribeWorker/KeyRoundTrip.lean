import Panakoes.Foundation.QuotePlus
import Panakoes.IngestionApi.ObjectKey
import Panakoes.TranscribeWorker.Batch

/-! # Keys from the upload to the consumers

A key that the ingestion API has built comes back in two shapes of event. A notification of S3
carries it quoted, an event of EventBridge as it is, and both parsers unquote it in either shape.
The key of an EventBridge event is read back when the user identifier has nothing in it that
unquoting touches.
-/

namespace Panakoes.TranscribeWorker

open PercentCoding IngestionApi

/-- An event delivers a key, with the characters that S3 leaves unquoted. -/
inductive Delivers (safe : Char → Bool) (key : String) (event : List (String × PyJson)) : Prop where
  | eventBridge (detail bucket object : List (String × PyJson)) (name : String)
      (source : PyJson.get event "source" = .str "aws.s3")
      (detailed : PyJson.get event "detail" = .dict detail)
      (bucketed : PyJson.get detail "bucket" = .dict bucket)
      (named : PyJson.get bucket "name" = .str name)
      (objected : PyJson.get detail "object" = .dict object)
      (keyed : PyJson.get object "key" = .str key)
  | notification (record s3 bucket object : List (String × PyJson)) (name : String)
      (source : PyJson.get event "source" = .none)
      (recorded : PyJson.get event "Records" = .list [.dict record])
      (stored : PyJson.get record "s3" = .dict s3)
      (bucketed : PyJson.get s3 "bucket" = .dict bucket)
      (named : PyJson.get bucket "name" = .str name)
      (objected : PyJson.get s3 "object" = .dict object)
      (keyed : PyJson.get object "key" = .str (String.ofList (quotePlus safe key.toList)))

/-- The key of an upload comes back from every event that delivers it, in the router and in the
worker, and the two read every key alike. -/
structure RoundTrips (safe : Char → Bool) (userId ingestionId filename : String) : Prop where
  router : ∀ event, Delivers safe (buildObjectKey userId ingestionId filename) event →
    ∃ key, EventRouter.extractS3Records event = .ok [key] ∧
      EventRouter.parseObjectKey key = some ⟨userId, ingestionId, sanitizeFilename filename⟩
  worker : ∀ read body event, JsonText.loads read body = .ok (.dict event) →
    Delivers safe (buildObjectKey userId ingestionId filename) event →
    ∃ info, extractS3EventFromSqsBody read body = .ok (some info) ∧
      parseObjectKey info.key = some ⟨userId, ingestionId, sanitizeFilename filename⟩
  agree : ∀ key, parseObjectKey key = (EventRouter.parseObjectKey key).map ParsedKey.ofRouter

/-- Nothing in the user identifier is touched by unquoting. -/
def Untouched (userId : String) : Prop :=
  userId ≠ "" ∧ '+' ∉ userId.toList ∧ hasEscape userId.toList = false

variable {safe : Char → Bool} {userId ingestionId filename key : String}
  {event : List (String × PyJson)}

theorem hasEscape_of_not_mem {text : List Char} (without : '%' ∉ text) :
    hasEscape text = false := by
  induction text with
  | nil => rfl
  | cons char text ih =>
      have here := List.ne_of_not_mem_cons without
      rw [hasEscape, escapesHere_of_ne here.symm, Bool.false_or]
      exact ih (List.not_mem_of_not_mem_cons without)

/-- Plain text is read as it is. -/
theorem unquotePlus_plain {text : String} (plain : IsPlain text) :
    unquotePlus text.toList = text.toList := by
  refine (unquotePlus_eq_self_iff _).mpr ⟨fun member => ?_, hasEscape_of_not_mem fun member => ?_⟩
  · exact (plain.2 _ member).2.1 rfl
  · exact (plain.2 _ member).2.2 rfl

theorem toList_buildObjectKey :
    (buildObjectKey userId ingestionId filename).toList =
      "audio".toList ++ '/' :: (userId.toList ++ '/' :: (ingestionId.toList ++
        '/' :: (sanitizeFilename filename).toList)) := by
  have built : buildObjectKey userId ingestionId filename =
      "audio/" ++ userId ++ "/" ++ ingestionId ++ "/" ++ sanitizeFilename filename := rfl
  rw [built]
  simp [String.toList_append]

/-- A key that is delivered as it is comes back if and only if the user identifier does. -/
theorem parse_buildObjectKey_iff (slashless : '/' ∉ userId.toList) (ingestion : IsPlain ingestionId) :
    EventRouter.parseObjectKey (buildObjectKey userId ingestionId filename) =
        some ⟨userId, ingestionId, sanitizeFilename filename⟩ ↔ Untouched userId := by
  have prefixed : unquotePlus "audio".toList = "audio".toList := by decide +kernel
  have file := isPlain_sanitizeFilename filename
  have unslashed : '/' ∉ ingestionId.toList := fun member => (ingestion.2 _ member).1 rfl
  have untouched : unquotePlus userId.toList = userId.toList ↔
      '+' ∉ userId.toList ∧ hasEscape userId.toList = false := unquotePlus_eq_self_iff _
  rw [EventRouter.parseObjectKey_eq_some_iff, toList_buildObjectKey, unquotePlus_slash,
    unquotePlus_slash, unquotePlus_slash, prefixed, unquotePlus_plain ingestion,
    unquotePlus_plain file]
  constructor
  · rintro ⟨decoded, -, -, nonempty, -, -⟩
    have same : unquotePlus userId.toList = userId.toList := by
      simpa using decoded
    exact ⟨nonempty, untouched.mp same⟩
  · rintro ⟨nonempty, plain⟩
    rw [untouched.mpr plain]
    exact ⟨rfl, slashless, unslashed, nonempty, ingestion.1, file.1⟩

/-- A key that is delivered quoted comes back. -/
theorem parse_quoted (keeps : SafeToKeep safe) (slashless : '/' ∉ userId.toList)
    (nonempty : userId ≠ "") (ingestion : IsPlain ingestionId) :
    EventRouter.parseObjectKey
        (String.ofList (quotePlus safe (buildObjectKey userId ingestionId filename).toList)) =
      some ⟨userId, ingestionId, sanitizeFilename filename⟩ := by
  have unslashed : '/' ∉ ingestionId.toList := fun member => (ingestion.2 _ member).1 rfl
  rw [EventRouter.parseObjectKey_eq_some_iff, String.toList_ofList, unquotePlus_quotePlus keeps,
    toList_buildObjectKey]
  exact ⟨rfl, slashless, unslashed, nonempty, ingestion.1, (isPlain_sanitizeFilename filename).1⟩

/-- The worker reads what the router reads. -/
theorem worker_parse {userId ingestionId filename : String}
    (read : EventRouter.parseObjectKey key = some ⟨userId, ingestionId, filename⟩) :
    parseObjectKey key = some ⟨userId, ingestionId, filename⟩ := by
  rw [parseObjectKey_eq, read]
  rfl

/-- The value of a dictionary in a dictionary. -/
theorem member_of_dict {entries found : List (String × PyJson)} {outer inner : String}
    (held : PyJson.get entries outer = .dict found) :
    EventRouter.member entries outer inner = .ok (PyJson.get found inner) := by
  unfold EventRouter.member
  rw [held]
  cases found with
  | nil => rfl
  | cons first rest => rfl

/-- The key that the consumers get of an event. -/
inductive Reads (event : List (String × PyJson)) (key : String) : Prop where
  | intro (name : String) (router : EventRouter.extractS3Records event = .ok [key])
      (worker : extractS3Event (.dict event) = .ok (some ⟨name, key⟩))

/-- Both consumers get the key that an event delivers, as it is or quoted. -/
theorem reads_of_delivers (delivers : Delivers safe key event) :
    Reads event key ∨ Reads event (String.ofList (quotePlus safe key.toList)) := by
  cases delivers with
  | eventBridge detail bucket object name source detailed bucketed named objected keyed =>
      refine Or.inl ⟨name, ?_, ?_⟩
      · rw [EventRouter.extractS3Records_detail source detailed, member_of_dict bucketed,
          member_of_dict objected, named, keyed]
        rfl
      · rw [extractS3Event_detail source detailed, member_of_dict bucketed,
          member_of_dict objected, named, keyed]
        rfl
  | notification record s3 bucket object name source recorded stored bucketed named objected
      keyed =>
      refine Or.inr ⟨name, ?_, ?_⟩
      · unfold EventRouter.extractS3Records
        rw [source, recorded]
        dsimp only
        simp only [List.mapM_cons, List.mapM_nil, EventRouter.recordKey, stored,
          member_of_dict bucketed, member_of_dict objected, named, keyed]
        rfl
      · unfold extractS3Event
        dsimp only
        rw [source, recorded]
        dsimp only
        rw [stored]
        dsimp only
        rw [member_of_dict bucketed, member_of_dict objected, named, keyed]
        rfl

/-- An event of EventBridge that delivers a key. -/
def bridgeEvent (key : String) : List (String × PyJson) :=
  [("source", .str "aws.s3"), ("detail", .dict [("bucket", .dict [("name", .str "audio-uploads")]),
    ("object", .dict [("key", .str key)])])]

theorem delivers_bridgeEvent (key : String) : Delivers safe key (bridgeEvent key) :=
  .eventBridge [("bucket", .dict [("name", .str "audio-uploads")]),
    ("object", .dict [("key", .str key)])] [("name", .str "audio-uploads")] [("key", .str key)]
    "audio-uploads" rfl rfl rfl rfl rfl rfl

/-- **Keys round trip.** For every user identifier without a slash, every ingestion and every
file name, the key comes back in both consumers from both shapes of event if and only if nothing
in the user identifier is touched by unquoting. -/
theorem roundTrips_iff {safe : Char → Bool} (keeps : SafeToKeep safe) (userId : String)
    (slashless : '/' ∉ userId.toList) (ingestion : BitVec 128) (filename : String) :
    RoundTrips safe userId (uuidText ingestion) filename ↔ Untouched userId := by
  have plain := isPlain_uuidText ingestion
  constructor
  · intro trips
    obtain ⟨key, extracted, parsed⟩ := trips.router _ (delivers_bridgeEvent _)
    have same : EventRouter.extractS3Records
        (bridgeEvent (buildObjectKey userId (uuidText ingestion) filename)) =
          .ok [buildObjectKey userId (uuidText ingestion) filename] := rfl
    rw [same] at extracted
    cases extracted
    exact (parse_buildObjectKey_iff slashless plain).mp parsed
  · intro untouched
    have back : ∀ event, Delivers safe (buildObjectKey userId (uuidText ingestion) filename) event →
        ∃ key, Reads event key ∧ EventRouter.parseObjectKey key =
          some ⟨userId, uuidText ingestion, sanitizeFilename filename⟩ := by
      intro event delivers
      rcases reads_of_delivers delivers with same | quoted
      · exact ⟨_, same, (parse_buildObjectKey_iff slashless plain).mpr untouched⟩
      · exact ⟨_, quoted, parse_quoted keeps slashless untouched.1 plain⟩
    refine ⟨fun event delivers => ?_, fun read body event loaded delivers => ?_, parseObjectKey_eq⟩
    · obtain ⟨key, ⟨_, extracted, _⟩, parsed⟩ := back event delivers
      exact ⟨key, extracted, parsed⟩
    · obtain ⟨key, ⟨name, _, extracted⟩, parsed⟩ := back event delivers
      refine ⟨⟨name, key⟩, ?_, worker_parse parsed⟩
      unfold extractS3EventFromSqsBody
      rw [loaded]
      exact extracted

/-! ## A plus sign -/

/-- The characters of a key that S3 leaves unquoted. -/
def s3Safe (char : Char) : Bool :=
  isFilenameSafe char ∨ char = '/' ∨ char = '*'

theorem safeToKeep_s3Safe : SafeToKeep s3Safe := by
  intro char safe
  rcases of_decide_eq_true safe with kept | rfl | rfl
  · exact (plain_of_isFilenameSafe kept).2
  · decide
  · decide

/-- The theorem on an identifier of letters. -/
theorem roundTrips_sample : RoundTrips s3Safe "u" (uuidText 1) "a.wav" :=
  (roundTrips_iff safeToKeep_s3Safe "u" (by decide) 1 "a.wav").mpr
    ⟨by decide, by decide, by decide⟩

/-- A user identifier with a plus sign comes back with a space. -/
theorem plus_not_roundTrips :
    ¬ ∀ (safe : Char → Bool), SafeToKeep safe → ∀ userId : String, '/' ∉ userId.toList →
      ∀ (ingestion : BitVec 128) (filename : String),
        RoundTrips safe userId (uuidText ingestion) filename := by
  intro always
  have trips := always s3Safe safeToKeep_s3Safe "a+b" (by decide) 1 "a.wav"
  obtain ⟨key, extracted, parsed⟩ := trips.router _ (delivers_bridgeEvent _)
  have spaced : EventRouter.parseObjectKey (buildObjectKey "a+b" (uuidText 1) "a.wav") =
      some ⟨"a b", uuidText 1, "a.wav"⟩ := by
    decide +kernel
  cases extracted
  rw [spaced] at parsed
  have same := congrArg (Option.map EventRouter.ParsedKey.userId) parsed
  revert same
  decide

end Panakoes.TranscribeWorker
