import Panakoes.Foundation.IsoTimestamp
import Panakoes.Foundation.JsonPrefix
import Panakoes.Foundation.StableSort
import Panakoes.Telemetry.SpoolIsolation

/-! # The order of the spool

The files of a pass are sorted by the time stamp of their event, as far as it is found in the first
4096 characters. These have to be JSON of their own: of a longer event nothing is found, and its
file comes before all others.
-/

namespace Panakoes.Telemetry

open PyJson (get)
open IsoTimestamp

variable {ε κ : Type*} {format : Format}

/-- The start of the file reads as JSON while the files are sorted. -/
def Flusher.peeksEvent (flusher : Flusher ε κ) (spool : Table SpoolPath String)
    (file : ListedFile ε) : Bool :=
  file.peeked && (spool.lookup file.path).any fun text => (flusher.loads (slice 4096 text)).isOk

/-- The file holds an event with this time stamp. -/
def Flusher.Holds (flusher : Flusher ε κ) (spool : Table SpoolPath String) (file : ListedFile ε)
    (stamp : Timestamp format) : Prop :=
  ∃ text raw, spool.lookup file.path = some text ∧ flusher.loads text = .ok (.dict raw) ∧
    get raw "timestamp" = .str stamp.text

/-- The first time is not after the second. -/
def NotAfter (first second : Timestamp format) : Prop := first.fields ≤ second.fields

instance : DecidableRel (@NotAfter format) := fun first second =>
  inferInstanceAs (Decidable (first.fields ≤ second.fields))

/-- The order by which files are sorted that have the same time stamp, or none. -/
def ModifiedBefore (first second : ListedFile ε) : Prop :=
  SortKey.Before ("", first.modified, first.path.name) ("", second.modified, second.path.name)

instance : DecidableRel (@ModifiedBefore ε) := fun _ _ => inferInstanceAs (Decidable (_ ∨ _))

/-- No event is after another that is sorted behind it because nothing is found in the file of the
first: not after one whose time stamp is found, nor after one that is sorted behind it by the
modification and the name of the file. -/
structure PeekedInOrder (flusher : Flusher ε κ) (spool : Table SpoolPath String)
    (stamp : ListedFile ε → Timestamp format) (files : List (ListedFile ε)) : Prop where
  beforePeeked : ∀ first ∈ files, ∀ second ∈ files, flusher.peeksEvent spool first = false →
    flusher.peeksEvent spool second = true → NotAfter (stamp first) (stamp second)
  amongUnpeeked : files.Pairwise fun first second => flusher.peeksEvent spool first = false →
    flusher.peeksEvent spool second = false →
      if ModifiedBefore first second then NotAfter (stamp first) (stamp second)
      else NotAfter (stamp second) (stamp first)

variable {flusher : Flusher ε κ} {read : JsonText.Numeral → Option ℚ}
  {spool : Table SpoolPath String} {file : ListedFile ε} {files : List (ListedFile ε)}

/-! ## The key of a file -/

theorem mem_dropWhile {p : Char → Bool} {chars : List Char} {char : Char}
    (member : char ∈ chars) (stops : p char = false) : char ∈ chars.dropWhile p := by
  induction chars with
  | nil => cases member
  | cons head tail ih =>
      by_cases skips : p head = true
      · rw [List.dropWhile_cons_of_pos skips]
        rcases List.mem_cons.mp member with rfl | later
        · cases stops.symm.trans skips
        · exact ih later
      · rwa [List.dropWhile_cons_of_neg skips]

theorem strip_ne_empty {text : String} {char : Char} (member : char ∈ text.toList)
    (visible : Streaming.isPySpace char = false) : strip text ≠ "" := by
  intro empty
  have left := mem_dropWhile member visible
  have right := mem_dropWhile (List.mem_reverse.mpr left) visible
  have chars := congrArg String.toList empty
  rw [strip, String.toList_ofList] at chars
  rw [List.reverse_eq_nil_iff.mp chars] at right
  cases right

/-- The time stamp of an event is found if the start of its text reads, and nothing else is. -/
theorem peekTimestamp_of_loads (reads : flusher.loads = JsonText.loads read) {text : String}
    {raw : HookEvent} {timestamp : String} (loads : flusher.loads text = .ok (.dict raw))
    (stamped : get raw "timestamp" = .str timestamp) :
    flusher.peekTimestamp text =
      .ok (if (flusher.loads (slice 4096 text)).isOk then timestamp else "") := by
  have parts : text = String.ofList (text.toList.take 4096 ++ text.toList.drop 4096) := by
    rw [List.take_append_drop, String.ofList_toList]
  unfold Flusher.peekTimestamp
  dsimp only
  cases start : flusher.loads (slice 4096 text) with
  | ok value =>
      have whole := loads
      rw [reads, parts] at whole
      rw [reads, slice] at start
      obtain ⟨rfl, brace, -⟩ := JsonText.loads_prefix start whole
      have nonempty : strip (slice 4096 text) ≠ "" :=
        strip_ne_empty (by rw [slice, String.toList_ofList]; exact brace) (by decide)
      rw [if_neg nonempty]
      simp only [stamped]
      rfl
  | error error =>
      rw [reads] at start
      rcases JsonText.loads_error start with rfl | rfl
      · split <;> rfl
      · split <;> rfl

/-- The key of a file that holds an event. -/
def Flusher.spoolKey (flusher : Flusher ε κ) (spool : Table SpoolPath String)
    (stamp : ListedFile ε → Timestamp format) (file : ListedFile ε) : SortKey :=
  (if flusher.peeksEvent spool file then (stamp file).text else "", file.modified, file.path.name)

theorem sortKey_of_holds (reads : flusher.loads = JsonText.loads read)
    {stamp : ListedFile ε → Timestamp format} (holds : flusher.Holds spool file (stamp file)) :
    flusher.sortKey spool file = .ok (flusher.spoolKey spool stamp file) := by
  obtain ⟨text, raw, found, loads, stamped⟩ := holds
  unfold Flusher.sortKey Flusher.spoolKey Flusher.peeksEvent
  dsimp only
  rw [found]
  cases file.peeked with
  | false => rfl
  | true =>
      rw [if_pos rfl]
      dsimp only
      rw [peekTimestamp_of_loads reads loads stamped, Option.any_some, Bool.true_and]
      rfl

/-- When every key is found, the files are sorted by the keys. -/
theorem listSpoolFiles_of_keys {key : ListedFile ε → SortKey}
    (keys : ∀ file ∈ files, flusher.sortKey spool file = .ok (key file)) :
    flusher.listSpoolFiles spool files =
      .ok (((files.map fun file => (key file, file)).insertionSort
        fun first second => first.1.Before second.1).map Prod.snd) := by
  have computed : (files.mapM fun file =>
      (flusher.sortKey spool file).map fun key => (key, file)) =
        .ok (files.map fun file => (key file, file)) := by
    induction files with
    | nil => rfl
    | cons file rest ih =>
        obtain ⟨first, later⟩ := List.forall_mem_cons.mp keys
        rw [List.mapM_cons, first, ih later]
        rfl
  rw [Flusher.listSpoolFiles, computed]
  rfl

/-! ## The order -/

theorem SortKey.before_total (first second : SortKey) :
    first.Before second ∨ second.Before first := by
  unfold SortKey.Before
  rcases lt_trichotomy first.1 second.1 with less | same | more
  · exact Or.inl (Or.inl less)
  · rcases lt_trichotomy first.2.1 second.2.1 with less | sameTime | more
    · exact Or.inl (Or.inr ⟨same, Or.inl less⟩)
    · rcases le_total first.2.2 second.2.2 with le | le
      · exact Or.inl (Or.inr ⟨same, Or.inr ⟨sameTime, le⟩⟩)
      · exact Or.inr (Or.inr ⟨same.symm, Or.inr ⟨sameTime.symm, le⟩⟩)
    · exact Or.inr (Or.inr ⟨same.symm, Or.inl more⟩)
  · exact Or.inr (Or.inl more)

theorem SortKey.before_trans (first second third : SortKey) (one : first.Before second)
    (two : second.Before third) : first.Before third := by
  unfold SortKey.Before at *
  rcases one with less | ⟨same, rest⟩
  · rcases two with less' | ⟨same', -⟩
    · exact Or.inl (less.trans less')
    · exact Or.inl (same' ▸ less)
  · rcases two with less' | ⟨same', rest'⟩
    · exact Or.inl (same ▸ less')
    · refine Or.inr ⟨same.trans same', ?_⟩
      rcases rest with less | ⟨sameTime, le⟩
      · rcases rest' with less' | ⟨sameTime', -⟩
        · exact Or.inl (less.trans less')
        · exact Or.inl (sameTime' ▸ less)
      · rcases rest' with less' | ⟨sameTime', le'⟩
        · exact Or.inl (sameTime ▸ less')
        · exact Or.inr ⟨sameTime.trans sameTime', le.trans le'⟩

/-- What is asked of two files, the first of which is listed before the second. -/
structure Flusher.Agree (flusher : Flusher ε κ) (spool : Table SpoolPath String)
    (stamp : ListedFile ε → Timestamp format) (first second : ListedFile ε) : Prop where
  peekedSecond : flusher.peeksEvent spool first = false → flusher.peeksEvent spool second = true →
    NotAfter (stamp first) (stamp second)
  peekedFirst : flusher.peeksEvent spool first = true → flusher.peeksEvent spool second = false →
    NotAfter (stamp second) (stamp first)
  unpeeked : flusher.peeksEvent spool first = false → flusher.peeksEvent spool second = false →
    if ModifiedBefore first second then NotAfter (stamp first) (stamp second)
    else NotAfter (stamp second) (stamp first)

/-- The keys of two files put their events in order if and only if the files agree. -/
theorem agree_iff {stamp : ListedFile ε → Timestamp format} {first second : ListedFile ε} :
    (if (flusher.spoolKey spool stamp first).Before (flusher.spoolKey spool stamp second) then
        NotAfter (stamp first) (stamp second)
      else NotAfter (stamp second) (stamp first)) ↔ flusher.Agree spool stamp first second := by
  have less := (stamp first).text_lt_iff (stamp second)
  have more := (stamp second).text_lt_iff (stamp first)
  have some_first := (stamp first).empty_lt_text
  have some_second := (stamp second).empty_lt_text
  cases onFirst : flusher.peeksEvent spool first with
  | false =>
      cases onSecond : flusher.peeksEvent spool second with
      | false =>
          have same : (flusher.spoolKey spool stamp first).Before
              (flusher.spoolKey spool stamp second) ↔ ModifiedBefore first second := by
            simp only [Flusher.spoolKey, onFirst, onSecond, Bool.false_eq_true, if_false,
              ModifiedBefore]
          simp only [same]
          exact ⟨fun ordered => ⟨by simp [onSecond], by simp [onFirst], fun _ _ => ordered⟩,
            fun agree => agree.unpeeked onFirst onSecond⟩
      | true =>
          have before : (flusher.spoolKey spool stamp first).Before
              (flusher.spoolKey spool stamp second) := by
            left
            simpa only [Flusher.spoolKey, onFirst, onSecond, Bool.false_eq_true, if_false, if_true]
          rw [if_pos before]
          exact ⟨fun ordered => ⟨fun _ _ => ordered, by simp [onFirst], by simp [onSecond]⟩,
            fun agree => agree.peekedSecond onFirst onSecond⟩
  | true =>
      cases onSecond : flusher.peeksEvent spool second with
      | false =>
          have behind : ¬ (flusher.spoolKey spool stamp first).Before
              (flusher.spoolKey spool stamp second) := by
            simp only [SortKey.Before, Flusher.spoolKey, onFirst, onSecond, Bool.false_eq_true,
              if_false, if_true, not_or, not_and]
            exact ⟨some_first.asymm, fun same => absurd same some_first.ne'⟩
          rw [if_neg behind]
          exact ⟨fun ordered => ⟨by simp [onFirst], fun _ _ => ordered, by simp [onFirst]⟩,
            fun agree => agree.peekedFirst onFirst onSecond⟩
      | true =>
          refine ⟨fun _ => ⟨by simp [onFirst], by simp [onSecond], by simp [onFirst]⟩, fun _ => ?_⟩
          simp only [SortKey.Before, Flusher.spoolKey, onFirst, onSecond, if_true]
          unfold NotAfter
          split
          · rename_i before
            refine not_lt.mp fun later => ?_
            rcases before with earlier | ⟨same, -⟩
            · exact lt_asymm earlier (more.mpr later)
            · exact (more.mpr later).ne' same
          · rename_i behind
            refine not_lt.mp fun earlier => behind (Or.inl (less.mpr earlier))

/-- The part of an agreement that does not depend on which file is listed first. -/
def Flusher.PeekedAgree (flusher : Flusher ε κ) (spool : Table SpoolPath String)
    (stamp : ListedFile ε → Timestamp format) (first second : ListedFile ε) : Prop :=
  (flusher.peeksEvent spool first = false → flusher.peeksEvent spool second = true →
    NotAfter (stamp first) (stamp second)) ∧
  (flusher.peeksEvent spool second = false → flusher.peeksEvent spool first = true →
    NotAfter (stamp second) (stamp first))

instance {stamp : ListedFile ε → Timestamp format} :
    Std.Symm (flusher.PeekedAgree spool stamp) :=
  ⟨fun _ _ both => ⟨both.2, both.1⟩⟩

/-- All files agree if and only if no event is sorted before an earlier one for want of its time
stamp. -/
theorem pairwise_agree_iff {stamp : ListedFile ε → Timestamp format} :
    files.Pairwise (flusher.Agree spool stamp) ↔ PeekedInOrder flusher spool stamp files := by
  constructor
  · intro agree
    refine ⟨?_, agree.imp fun both => both.unpeeked⟩
    have either : files.Pairwise (flusher.PeekedAgree spool stamp) :=
      agree.imp fun both => ⟨both.peekedSecond, fun second first => both.peekedFirst first second⟩
    intro first firstMember second secondMember unpeeked peeked
    have apart : first ≠ second := by
      rintro rfl
      cases unpeeked.symm.trans peeked
    exact (either.forall firstMember secondMember apart).1 unpeeked peeked
  · intro ordered
    refine ordered.amongUnpeeked.imp_of_mem fun firstMember secondMember among => ?_
    exact ⟨ordered.beforePeeked _ firstMember _ secondMember,
      fun peeked unpeeked => ordered.beforePeeked _ secondMember _ firstMember unpeeked peeked, among⟩

theorem listSpoolFiles_pairwise_iff (reads : flusher.loads = JsonText.loads read)
    {stamp : ListedFile ε → Timestamp format}
    (holds : ∀ file ∈ files, flusher.Holds spool file (stamp file)) :
    (∃ sorted, flusher.listSpoolFiles spool files = .ok sorted ∧
        sorted.Pairwise fun first second => NotAfter (stamp first) (stamp second)) ↔
      files.Pairwise (flusher.Agree spool stamp) := by
  rw [listSpoolFiles_of_keys fun file member => sortKey_of_holds reads (holds file member)]
  simp only [Except.ok.injEq, exists_eq_left', List.pairwise_map]
  have total : ∀ first second : SortKey × ListedFile ε,
      first.1.Before second.1 ∨ second.1.Before first.1 :=
    fun first second => SortKey.before_total first.1 second.1
  have trans : ∀ first second third : SortKey × ListedFile ε,
      first.1.Before second.1 → second.1.Before third.1 → first.1.Before third.1 :=
    fun first second third => SortKey.before_trans first.1 second.1 third.1
  rw [List.pairwise_insertionSort_iff total trans, List.pairwise_map]
  simp only [agree_iff]

/-- **The files are listed in the order of their events if and only if no event is sorted before an
earlier one for want of its time stamp.** -/
theorem listSpoolFiles_ordered_iff (flusher : Flusher ε κ)
    (reads : flusher.loads = JsonText.loads read) (spool : Table SpoolPath String)
    (files : List (ListedFile ε)) (stamp : ListedFile ε → Timestamp format)
    (holds : ∀ file ∈ files, flusher.Holds spool file (stamp file)) :
    (∃ sorted, flusher.listSpoolFiles spool files = .ok sorted ∧
        sorted.Pairwise fun first second => NotAfter (stamp first) (stamp second)) ↔
      PeekedInOrder flusher spool stamp files :=
  (listSpoolFiles_pairwise_iff reads holds).trans pairwise_agree_iff

/-- The start of an event that goes on behind it does not read. -/
theorem unread_of_long (reads : flusher.loads = JsonText.loads read) {text : String}
    {raw : HookEvent} (loads : flusher.loads text = .ok (.dict raw)) {char : Char}
    (behind : char ∈ text.toList.drop 4096) (visible : JsonText.isSpace char = false) :
    (flusher.loads (slice 4096 text)).isOk = false := by
  cases start : flusher.loads (slice 4096 text) with
  | error error => rfl
  | ok value =>
      have parts : text = String.ofList (text.toList.take 4096 ++ text.toList.drop 4096) := by
        rw [List.take_append_drop, String.ofList_toList]
      rw [reads, parts] at loads
      rw [reads, slice] at start
      have spaces := (JsonText.loads_prefix start loads).2.2 char behind
      cases visible.symm.trans spaces

/-! ## A tool call -/

/-- A second of one minute. -/
def sampleStamp (second : ℕ) : Timestamp ⟨0, "Z"⟩ where
  year := 2026
  month := 6
  day := 4
  hour := 10
  minute := 30
  second := min second 59
  fraction := 0
  year_lt := by decide
  month_le := by decide
  day_le := by decide
  hour_lt := by decide
  minute_lt := by decide
  second_le := by omega
  fraction_lt := by decide

/-- An event of a tool call. -/
def callEvent (name : String) (second : ℕ) (response : String) : HookEvent :=
  [("tool_response", .str response), ("hook_event_name", .str name), ("tool_use_id", .str "t1"),
    ("timestamp", .str (sampleStamp second).text)]

/-- The text of the event. -/
def callText (name : String) (second : ℕ) (response : String) : String :=
  samplePython.dumps (.dict (callEvent name second response))

/-- Its file, modified in the same second. -/
def callFile (name : String) (second : ℕ) : ListedFile Scans :=
  ⟨⟨"s1", name⟩, second, true, sampleDrain⟩

/-- The files of the two events of a call. -/
def callFiles : List (ListedFile Scans) := [callFile "PreToolUse" 1, callFile "PostToolUse" 2]

/-- The spool with the two files. -/
def callSpool (response : String) : Table SpoolPath String :=
  ((∅ : Table SpoolPath String).insert ⟨"s1", "PreToolUse"⟩ (callText "PreToolUse" 1 "")).insert
    ⟨"s1", "PostToolUse"⟩ (callText "PostToolUse" 2 response)

theorem loads_callText (name : String) (second : ℕ) (response : String) :
    (samplePython.flusher false).loads (callText name second response) =
      .ok (.dict (callEvent name second response)) := by
  have written : JsonText.Written samplePython.style (fun _ => none)
      (.dict (callEvent name second response)) := by
    refine .dict (show ["tool_response", "hook_event_name", "tool_use_id", "timestamp"].Nodup by
      decide) fun entry member => ?_
    simp only [callEvent, List.mem_cons, List.not_mem_nil, or_false] at member
    rcases member with rfl | rfl | rfl | rfl <;> exact .str _
  rw [Python.loads_flusher, callText]
  exact loads_dumps_sample written

theorem lookup_preToolUse (response : String) :
    (callSpool response).lookup (callFile "PreToolUse" 1).path =
      some (callText "PreToolUse" 1 "") := by
  rw [callSpool, AList.lookup_insert_ne (by decide)]
  exact AList.lookup_insert ∅

theorem lookup_postToolUse (response : String) :
    (callSpool response).lookup (callFile "PostToolUse" 2).path =
      some (callText "PostToolUse" 2 response) :=
  AList.lookup_insert _

theorem holds_callFiles (response : String) :
    ∀ file ∈ callFiles, (samplePython.flusher false).Holds (callSpool response) file
      (sampleStamp file.modified) := by
  intro file member
  rcases List.mem_pair.mp member with rfl | rfl
  · exact ⟨_, _, lookup_preToolUse response, loads_callText _ _ _, rfl⟩
  · exact ⟨_, _, lookup_postToolUse response, loads_callText _ _ _, rfl⟩

/-- A short event is found. -/
theorem peeks_callFile {response : String} {file : ListedFile Scans} {name : String} {second : ℕ}
    (found : (callSpool response).lookup file.path = some (callText name second ""))
    (readable : file.peeked = true) (short : (callText name second "").toList.length ≤ 4096) :
    (samplePython.flusher false).peeksEvent (callSpool response) file = true := by
  have whole : slice 4096 (callText name second "") = callText name second "" := by
    rw [slice, List.take_of_length_le short, String.ofList_toList]
  rw [Flusher.peeksEvent, readable, found, Option.any_some, whole, loads_callText]
  rfl

/-- The theorem on a call with a short answer. -/
theorem callFiles_ordered :
    ∃ sorted, (samplePython.flusher false).listSpoolFiles (callSpool "") callFiles = .ok sorted ∧
      sorted.Pairwise fun first second =>
        NotAfter (sampleStamp first.modified) (sampleStamp second.modified) := by
  have short (name : String) (second : ℕ) (written : (samplePython.style.write
      (.dict (callEvent name second ""))).length ≤ 4096) :
      (callText name second "").toList.length ≤ 4096 := by
    rw [callText, Python.dumps, JsonText.dumps, String.toList_ofList]
    exact written
  have peeked : ∀ file ∈ callFiles,
      (samplePython.flusher false).peeksEvent (callSpool "") file = true := by
    intro file member
    rcases List.mem_pair.mp member with rfl | rfl
    · exact peeks_callFile (lookup_preToolUse "") rfl (short _ _ (by decide +kernel))
    · exact peeks_callFile (lookup_postToolUse "") rfl (short _ _ (by decide +kernel))
  refine (listSpoolFiles_ordered_iff _ rfl _ _ _ (holds_callFiles "")).mpr ⟨?_, ?_⟩
  · intro first member second _ unpeeked
    cases unpeeked.symm.trans (peeked first member)
  · refine List.pairwise_pair.mpr fun unpeeked => ?_
    cases unpeeked.symm.trans (peeked _ (by simp [callFiles]))

/-- An answer of so many characters. -/
def longResponse (length : ℕ) : String := String.ofList (List.replicate length 'x')

theorem brace_mem_writeMembers (style : JsonText.Style) (members : List (String × PyJson)) :
    '\x7d' ∈ style.writeMembers members := by
  induction members with
  | nil => exact List.mem_cons_self
  | cons member members ih =>
      rw [JsonText.Style.writeMembers]
      simp [ih]

/-- An event with a long answer ends behind what is read of it. -/
theorem brace_behind_response {length : ℕ} (long : 4096 ≤ length) :
    '\x7d' ∈ (callText "PostToolUse" 2 (longResponse length)).toList.drop 4096 := by
  have single : samplePython.style.charText 'x' = ['x'] := by decide
  have escaped : samplePython.style.stringTail (longResponse length) =
      List.replicate length 'x' ++ ['"'] := by
    rw [JsonText.Style.stringTail, longResponse, String.toList_ofList, List.flatMap_replicate, single,
      List.flatten_replicate_singleton]
  have text : (callText "PostToolUse" 2 (longResponse length)).toList =
      (('\x7b' :: '"' :: (samplePython.style.stringTail "tool_response" ++
        (':' :: (samplePython.style.gap ++ ['"'])))) ++ List.replicate length 'x') ++
        ('"' :: samplePython.style.writeMembers (callEvent "PostToolUse" 2 "").tail) := by
    rw [callText, Python.dumps, JsonText.dumps, String.toList_ofList, callEvent, JsonText.Style.write,
      JsonText.Style.write, escaped, callEvent, List.tail_cons]
    simp only [List.append_assoc, List.cons_append, List.nil_append]
  rw [text, List.drop_append_of_le_length (by rw [List.length_append, List.length_replicate]; omega)]
  exact List.mem_append_right _ (List.mem_cons_of_mem _ (brace_mem_writeMembers _ _))

/-- The long answer puts the end of the call before its start. -/
theorem longResponse_first :
    ¬ ∀ (spool : Table SpoolPath String) (files : List (ListedFile Scans))
      (stamp : ListedFile Scans → Timestamp ⟨0, "Z"⟩),
      (∀ file ∈ files, (samplePython.flusher false).Holds spool file (stamp file)) →
      ∃ sorted, (samplePython.flusher false).listSpoolFiles spool files = .ok sorted ∧
        sorted.Pairwise fun first second => NotAfter (stamp first) (stamp second) := by
  intro always
  have ordered := always (callSpool (longResponse 5000)) callFiles
    (fun file => sampleStamp file.modified) (holds_callFiles (longResponse 5000))
  have agree := List.pairwise_pair.mp
    ((listSpoolFiles_pairwise_iff rfl (holds_callFiles (longResponse 5000))).mp ordered)
  have short : (callText "PreToolUse" 1 "").toList.length ≤ 4096 := by
    rw [callText, Python.dumps, JsonText.dumps, String.toList_ofList]
    decide +kernel
  have unpeeked : (samplePython.flusher false).peeksEvent (callSpool (longResponse 5000))
      (callFile "PostToolUse" 2) = false := by
    have brace := @brace_behind_response 5000 (by decide)
    have reads : (samplePython.flusher false).loads = JsonText.loads fun _ => none := rfl
    rw [Flusher.peeksEvent, lookup_postToolUse, Option.any_some,
      unread_of_long reads (loads_callText _ _ _) brace rfl, Bool.and_false]
  have late := agree.peekedFirst (peeks_callFile (lookup_preToolUse _) rfl short) unpeeked
  exact absurd late (by decide)

end Panakoes.Telemetry
