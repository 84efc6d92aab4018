import Panakoes.Foundation.ShellWords

/-! # The user data of a GPU instance

What `_build_user_data` puts into the boot script: a few assignments, the here-document that becomes
the env file of the container, and one argument of `docker run`. Every value is quoted for the
shell. The rest of the script has no values in it and uses the variables in double quotes.
-/

namespace Panakoes.GpuSpawner

open Shell

/-- The arguments of `_build_user_data`. -/
structure UserData where
  sessionId : String
  frameQueueUrl : String
  imageUri : String
  wsMgmtEndpoint : String
  sessionsTable : String
  framePoolTable : String
  transcriptsBucket : String
  awsRegion : String

/-- `_ecr_registry_from_image_uri`. -/
def ecrRegistryFromImageUri (imageUri : String) : String :=
  String.ofList (imageUri.toList.takeWhile (· ≠ '/'))

/-- The text `name=value`. -/
def pair (name : String) (value : List Char) : List Char := name.toList ++ '=' :: value

/-- The text `name={sq(value)}`. -/
def quotedPair (entry : String × String) : List Char := pair entry.1 (quote entry.2.toList)

namespace UserData

/-- The variables of the script. -/
def assignments (data : UserData) : List (String × String) :=
  [("REGION", data.awsRegion),
    ("REGISTRY", ecrRegistryFromImageUri data.imageUri),
    ("IMAGE_URI", data.imageUri),
    ("SESSION_ID", data.sessionId),
    ("WS_MGMT_ENDPOINT", data.wsMgmtEndpoint)]

/-- The variables of the container. -/
def envEntries (data : UserData) : List (String × String) :=
  [("PANAKOES_SESSION_ID", data.sessionId),
    ("PANAKOES_CONNECTION_ID", data.sessionId),
    ("FRAME_QUEUE_URL", data.frameQueueUrl),
    ("WS_ENDPOINT", data.wsMgmtEndpoint),
    ("STREAMING_SESSIONS_TABLE", data.sessionsTable),
    ("STREAMING_FRAME_POOL_TABLE", data.framePoolTable),
    ("TRANSCRIPTS_BUCKET", data.transcriptsBucket),
    ("AWS_REGION", data.awsRegion),
    ("AWS_DEFAULT_REGION", data.awsRegion)]

/-- The argument of `--log-opt`. -/
def logStream (data : UserData) : String × String := ("awslogs-stream", data.sessionId)

/-- What follows `cat > /etc/panakoes.env <<EOF` in the script. -/
def envDocument (data : UserData) (rest : List Char) : List Char :=
  (data.envEntries.map quotedPair).flatMap (· ++ ['\n']) ++ ("EOF".toList ++ '\n' :: rest)

/-- What is written to `/etc/panakoes.env`. -/
def envFile (data : UserData) (expander : Expander) (rest : List Char) : Option Reading :=
  hereDocument expander 0 (hereDocumentBody "EOF".toList (data.envDocument rest))

end UserData

/-! ## The env file as it is read -/

/-- A line of an env file: blanks at its start are left out, and it may be a comment. -/
def envEntry? (line : List Char) : Option (List Char × List Char) :=
  let trimmed := line.dropWhile fun char => char = ' ' ∨ char = '\t'
  if trimmed = [] ∨ trimmed.head? = some '#' then none
  else some (trimmed.takeWhile (· ≠ '='), (trimmed.dropWhile (· ≠ '=')).tail)

/-- What `docker run --env-file` reads: a value is the rest of its line, quotes included. -/
def readEnvFile (text : List Char) : List (List Char × List Char) :=
  (text.splitOn '\n').filterMap envEntry?

/-- Names of variables. -/
def ProperName (name : List Char) : Prop :=
  name ≠ [] ∧ ∀ char ∈ name, char.isUpper = true ∨ char = '_'

instance : DecidablePred ProperName := fun name =>
  decidable_of_iff (name ≠ [] ∧ name.all fun char => char.isUpper || char == '_')
    (and_congr_right' (by simp [List.all_eq_true]))

/-- The script does what it is meant to do with the values: the env file has each of them exactly,
each assignment and the argument is one word, and nothing is expanded. -/
structure Faithful (expander : Expander) (data : UserData) : Prop where
  envFile : ∀ rest, ∃ file, data.envFile expander rest = some file ∧ file.expanded = [] ∧
    readEnvFile file.text = data.envEntries.map fun entry => (entry.1.toList, entry.2.toList)
  assignments : ∀ entry ∈ data.assignments, ∀ rest,
    word expander .bare 0 (quotedPair entry ++ '\n' :: rest) =
      some ⟨pair entry.1 entry.2.toList, [], '\n' :: rest⟩
  logStream : ∀ rest, word expander .bare 0 (quotedPair data.logStream ++ ' ' :: rest) =
    some ⟨pair data.logStream.1 data.logStream.2.toList, [], ' ' :: rest⟩

variable {expander : Expander} {data : UserData} {name value rest : List Char}

theorem takeWhile_properName (proper : ProperName name) (rest : List Char) :
    (name ++ '=' :: rest).takeWhile (· ≠ '=') = name ∧
      (name ++ '=' :: rest).dropWhile (· ≠ '=') = '=' :: rest := by
  have apart : ∀ char ∈ name, decide (char ≠ '=') = true := by
    intro char member
    rcases proper.2 char member with upper | rfl
    · rw [decide_eq_true_eq]
      rintro rfl
      cases upper
    · rfl
  rw [List.takeWhile_append_of_pos apart, List.dropWhile_append_of_pos apart]
  simp

/-- A line that begins with a name is an entry. -/
theorem envEntry?_pair (proper : ProperName name) (value : List Char) :
    envEntry? (name ++ '=' :: value) = some (name, value) := by
  obtain ⟨front, back⟩ := takeWhile_properName proper value
  obtain ⟨nonempty, letters⟩ := proper
  obtain ⟨first, tail, rfl⟩ := List.exists_cons_of_ne_nil nonempty
  have letter := letters first (List.mem_cons_self ..)
  have noBlank : ¬ (first = ' ' ∨ first = '\t') := by
    rintro (rfl | rfl) <;> revert letter <;> decide
  have noComment : first ≠ '#' := by
    rintro rfl
    revert letter
    decide
  have same : ((first :: tail) ++ '=' :: value).dropWhile
      (fun char => decide (char = ' ' ∨ char = '\t')) = (first :: tail) ++ '=' :: value :=
    List.dropWhile_cons_of_neg (by simpa using noBlank)
  unfold envEntry?
  dsimp only
  rw [same, front, back, if_neg (by simpa using noComment)]
  rfl

theorem newline_not_mem_of_proper (proper : ProperName name) : '\n' ∉ name := by
  intro member
  rcases proper.2 '\n' member with upper | underscore
  · cases upper
  · cases underscore

theorem newline_not_mem_pair (proper : ProperName name) (oneLine : '\n' ∉ value) :
    '\n' ∉ name ++ '=' :: value := by
  simp [newline_not_mem_of_proper proper, oneLine]

/-- A line is read, and then the rest of the file. -/
theorem readEnvFile_line (proper : ProperName name) (oneLine : '\n' ∉ value) (rest : List Char) :
    readEnvFile (name ++ '=' :: value ++ '\n' :: rest) = (name, value) :: readEnvFile rest := by
  rw [readEnvFile, splitOn_line (newline_not_mem_pair proper oneLine),
    List.filterMap_cons_some (envEntry?_pair proper value), ← readEnvFile]

/-- The value of the first variable is the rest of the first line. -/
theorem head?_readEnvFile (proper : ProperName name) (text : List Char) :
    (readEnvFile (name ++ '=' :: text)).head? = some (name, text.takeWhile (· ≠ '\n')) := by
  have all {line : List Char} (oneLine : '\n' ∉ line) :
      ∀ char ∈ line, decide (char ≠ '\n') = true := fun char member =>
    decide_eq_true fun same => oneLine (same ▸ member)
  by_cases ends : '\n' ∈ text
  · obtain ⟨line, rest, rfl, oneLine⟩ := List.eq_append_cons_of_mem ends
    rw [← List.cons_append, ← List.append_assoc, readEnvFile_line proper oneLine,
      List.takeWhile_append_of_pos (all oneLine), List.takeWhile_cons_of_neg (by decide),
      List.append_nil]
    rfl
  · have single : (name ++ '=' :: text).splitOn '\n' = [name ++ '=' :: text] := by
      rw [List.splitOn_eq_splitOnP]
      refine List.splitOnP_eq_singleton fun char member => ?_
      rw [beq_eq_false_iff_ne]
      rintro rfl
      exact newline_not_mem_pair proper ends member
    rw [readEnvFile, single, List.filterMap_cons_some (envEntry?_pair proper text),
      List.takeWhile_eq_self_iff.mpr (all ends)]
    rfl

/-! ## The composition of the quotings -/

theorem isSafe_of_properName (proper : ProperName name) : ∀ char ∈ name, isSafe char = true := by
  intro char letter
  rcases proper.2 char letter with upper | rfl
  · have letter : char.isAlpha = true := Bool.or_eq_true_iff.mpr (Or.inl upper)
    simp [isSafe, Char.isAlphanum, letter]
  · rfl

theorem properName_literal (proper : ProperName name) : ∀ char ∈ name ++ ['='], Literal char := by
  intro char member
  rcases List.mem_append.mp member with letter | sign
  · exact literal_of_isSafe (isSafe_of_properName proper char letter)
  · rw [List.mem_singleton.mp sign]
    decide

/-- A line of the here-document comes out with its name. -/
theorem hereDocument_quotedPair (entry : String × String) (proper : ProperName entry.1.toList)
    (rest : List Char) :
    hereDocument expander 0 (quotedPair entry ++ rest) =
      (hereDocument expander 0 (quote entry.2.toList ++ rest)).map
        (Reading.prepend (entry.1.toList ++ ['='])) := by
  rw [← hereDocument_literal (properName_literal proper)]
  simp [quotedPair, pair]

/-- Entries come out of the here-document and the env file as they are if and only if all their
values need no quotes. -/
theorem entries_read_iff {entries : List (String × String)}
    (proper : ∀ entry ∈ entries, ProperName entry.1.toList)
    (oneLine : ∀ entry ∈ entries, '\n' ∉ entry.2.toList) :
    (∃ file, hereDocument expander 0 ((entries.map quotedPair).flatMap (· ++ ['\n'])) = some file ∧
        file.expanded = [] ∧
        readEnvFile file.text = entries.map fun entry => (entry.1.toList, entry.2.toList)) ↔
      ∀ entry ∈ entries, Bare entry.2.toList := by
  induction entries with
  | nil => exact iff_of_true ⟨_, rfl, rfl, rfl⟩ fun entry member => absurd member List.not_mem_nil
  | cons entry entries ih =>
      obtain ⟨named, properRest⟩ := List.forall_mem_cons.mp proper
      obtain ⟨single, oneLineRest⟩ := List.forall_mem_cons.mp oneLine
      have rest := ih properRest oneLineRest
      rw [List.map_cons, List.flatMap_cons, List.append_assoc, hereDocument_quotedPair entry named,
        List.forall_mem_cons, ← rest]
      by_cases bare : Bare entry.2.toList
      · rw [hereDocument_quote_of_bare bare, hereDocument_literal (List.forall_mem_singleton.mpr (by decide)),
          Option.map_map, Option.map_map, Reading.prepend_prepend, Reading.prepend_prepend]
        have line (text : List Char) : entry.1.toList ++ ['='] ++ entry.2.toList ++ ['\n'] ++ text =
            entry.1.toList ++ '=' :: entry.2.toList ++ '\n' :: text := by
          simp
        constructor
        · rintro ⟨file, read, unexpanded, entriesRead⟩
          obtain ⟨others, readOthers, rfl⟩ := Option.map_eq_some_iff.mp read
          rw [Reading.prepend, line, readEnvFile_line named single, List.map_cons,
            List.cons.injEq] at entriesRead
          exact ⟨bare, others, readOthers, unexpanded, entriesRead.2⟩
        · rintro ⟨-, others, readOthers, unexpanded, entriesRead⟩
          refine ⟨_, Option.map_eq_some_iff.mpr ⟨others, readOthers, rfl⟩, unexpanded, ?_⟩
          rw [Reading.prepend, line, readEnvFile_line named single, entriesRead]
          rfl
      · refine iff_of_false ?_ fun both => bare both.1
        rintro ⟨file, read, -, entriesRead⟩
        obtain ⟨behind, readValue, rfl⟩ := Option.map_eq_some_iff.mp read
        have first := congrArg List.head? entriesRead
        rw [Reading.prepend, List.append_assoc, List.singleton_append, head?_readEnvFile named,
          List.map_cons, List.head?_cons, Option.some_inj, Prod.mk.injEq] at first
        exact line_ne_of_not_bare bare readValue first.2

/-- A quoted pair is one word. -/
theorem word_quotedPair {entry : String × String} (plain : ∀ char ∈ entry.1.toList, Plain char)
    {last : Char} (ends : last ∈ endChars) (rest : List Char) :
    word expander .bare 0 (quotedPair entry ++ last :: rest) =
      some ⟨pair entry.1 entry.2.toList, [], last :: rest⟩ := by
  have named : ∀ char ∈ entry.1.toList ++ ['='], Plain char := by
    intro char member
    rcases List.mem_append.mp member with letter | sign
    · exact plain char letter
    · rw [List.mem_singleton.mp sign]
      decide
  have parts : quotedPair entry ++ last :: rest =
      (entry.1.toList ++ ['=']) ++ (quote entry.2.toList ++ last :: rest) := by
    simp [quotedPair, pair]
  rw [parts, word_bare_plain named, word_quote, word, if_pos ends]
  simp [Reading.prepend, pair]

namespace UserData

/-- The names of all variables are proper. -/
theorem proper (data : UserData) :
    ∀ entry ∈ data.envEntries ++ data.assignments, ProperName entry.1.toList := by
  have names : ∀ name ∈ (data.envEntries ++ data.assignments).map Prod.fst,
      ProperName name.toList := by
    show ∀ name ∈ ["PANAKOES_SESSION_ID", "PANAKOES_CONNECTION_ID", "FRAME_QUEUE_URL",
      "WS_ENDPOINT", "STREAMING_SESSIONS_TABLE", "STREAMING_FRAME_POOL_TABLE",
      "TRANSCRIPTS_BUCKET", "AWS_REGION", "AWS_DEFAULT_REGION", "REGION", "REGISTRY",
      "IMAGE_URI", "SESSION_ID", "WS_MGMT_ENDPOINT"], ProperName name.toList
    decide
  exact fun entry member => names _ (List.mem_map_of_mem member)

/-- The here-document is not ended by a value. -/
theorem envFile_eq (data : UserData) (expander : Expander)
    (oneLine : ∀ entry ∈ data.envEntries, '\n' ∉ entry.2.toList) (rest : List Char) :
    data.envFile expander rest =
      hereDocument expander 0 ((data.envEntries.map quotedPair).flatMap (· ++ ['\n'])) := by
  rw [envFile, envDocument, hereDocumentBody_lines ?_ ?_ (by decide)]
  · intro line member newline
    obtain ⟨entry, held, rfl⟩ := List.mem_map.mp member
    have named := data.proper entry (List.mem_append_left _ held)
    rcases List.mem_append.mp newline with letter | later
    · exact newline_not_mem_of_proper named letter
    · rcases List.mem_cons.mp later with sign | quoted
      · cases sign
      · rcases mem_quote quoted with given | quoteMark | quoteMark
        · exact oneLine entry held given
        · cases quoteMark
        · cases quoteMark
  · intro line member same
    obtain ⟨entry, -, rfl⟩ := List.mem_map.mp member
    have sign : '=' ∈ quotedPair entry := by simp [quotedPair, pair]
    rw [same] at sign
    revert sign
    decide

end UserData

/-- **The script does what it is meant to do with the values if and only if no value of the env file
needs quotes.** -/
theorem faithful_iff_bare (expander : Expander) (data : UserData)
    (oneLine : ∀ entry ∈ data.envEntries, '\n' ∉ entry.2.toList) :
    Faithful expander data ↔ ∀ entry ∈ data.envEntries, Bare entry.2.toList := by
  rw [← @entries_read_iff expander _
    (fun entry member => data.proper entry (List.mem_append_left _ member)) oneLine]
  constructor
  · intro faithful
    obtain ⟨file, written, read⟩ := faithful.envFile []
    rw [data.envFile_eq expander oneLine] at written
    exact ⟨file, written, read⟩
  · rintro ⟨file, written, read⟩
    refine ⟨fun rest => ⟨file, ?_, read⟩, fun entry member rest => ?_, fun rest => ?_⟩
    · rw [data.envFile_eq expander oneLine, written]
    · refine word_quotedPair (fun char letter => ?_) (by decide) rest
      have proper := data.proper entry (List.mem_append_right _ member)
      exact plain_of_isSafe (isSafe_of_properName proper char letter)
    · have safe : "awslogs-stream".toList.all isSafe = true := by decide
      exact word_quotedPair
        (fun char letter => plain_of_isSafe (List.all_eq_true.mp safe char letter)) (by decide) rest

/-- The values of an ordinary session. -/
def sampleUserData : UserData where
  sessionId := "sess_abc"
  frameQueueUrl := "https://sqs/pool-7"
  imageUri := "ecr/stream-transcriber:1"
  wsMgmtEndpoint := "https://ws/dev"
  sessionsTable := "sessions"
  framePoolTable := "pool"
  transcriptsBucket := "transcripts"
  awsRegion := "us-east-1"

/-- A shell that runs `id` when it is asked to, and knows no other expansion. -/
def sampleExpander : Expander := fun text =>
  if "$(id)".toList.isPrefixOf text then some ("uid=0(root) gid=0(root) groups=0(root)".toList, 4)
  else (text.take 1, 0)

/-- The theorem on an ordinary session. -/
theorem faithful_sampleUserData : Faithful sampleExpander sampleUserData :=
  (faithful_iff_bare sampleExpander sampleUserData (by decide +kernel)).mpr (by decide +kernel)

/-- The session id asks the shell to run a command. -/
def commandUserData : UserData := { sampleUserData with sessionId := "$(id)" }

/-- The command is run, and what it prints is the session id of the container. -/
theorem commandUserData_runs :
    ¬ ∀ (expander : Expander) (data : UserData),
      (∀ entry ∈ data.envEntries, '\n' ∉ entry.2.toList) → Faithful expander data := by
  intro always
  obtain ⟨file, written, unexpanded, -⟩ :=
    (always sampleExpander commandUserData (by decide +kernel)).envFile []
  have ran : (commandUserData.envFile sampleExpander []).map Reading.expanded =
      some ["$(id)".toList, "$(id)".toList] := by
    decide +kernel
  rw [written, Option.map_some, unexpanded] at ran
  cases ran

end Panakoes.GpuSpawner
