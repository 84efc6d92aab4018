import Panakoes.Changelog.AssembleChangelog

/-! # What the changelog keeps

The block as it should be, line by line, from the bodies of the fragments. What is inserted is the
block as awk reads it, so a line with an escape sequence is altered. Without a marker the block is
put at the end of the changelog, not at its top.
-/

namespace Panakoes.Changelog

open TextLines

/-! ## The block as it should be -/

/-- What follows the first fence. -/
def afterFence (read : List Line) : List Line := (read.dropWhile (· ≠ fence)).tail

/-- The body of a fragment: the lines after the second fence, without the blank ones they begin with.
A line ends with a line feed, with or without a carriage return before it. -/
def bodyLines (file : TextFile) : List Line :=
  (afterFence (afterFence ((lines file.chars).map chomp))).dropWhile (· = [])

/-- The category of a fragment. -/
def category (file : TextFile) : Line :=
  match parseFragment file with
  | .ok fragment => fragment.category
  | .error _ => []

/-- Bodies one below the other. A body without a line is a blank line, unless nothing is above. -/
def stacked (bodies : List (List Line)) : List Line :=
  (bodies.dropWhile (· = [])).flatMap fun body => if body = [] then [[]] else body

/-- What stands under the heading of a category. -/
def entries (files : List TextFile) (group : Line) : List Line :=
  stacked (((collect files).filter fun file => category file = group).map bodyLines)

/-- The block: the header, the categories that have entries, and a blank line. -/
def blockLines (version date : String) (files : List TextFile) : List Line :=
  lines (header version date ++ ['\n']) ++
    (categories.flatMap fun group =>
      if entries files group = [] then []
      else [] :: heading group :: entries files group) ++ [[]]

/-- The block stands above the first section after the marker, or at the top without a marker. -/
structure Placed (changelog before : List Line) : Prop where
  above : ∀ start marker middle version rest,
    changelog = start ++ marker :: (middle ++ version :: rest) →
      (∀ line ∈ start, ¬ IsUnreleased line) → IsUnreleased marker →
      (∀ line ∈ middle, StartsSection line → IsUnreleased line) →
      StartsSection version → ¬ IsUnreleased version → before = start ++ marker :: middle
  top : (∀ line ∈ changelog, ¬ IsUnreleased line) → before = []

/-- The changelog keeps its lines and has the block in its place. -/
def Lossless (version date : String) (files : List TextFile) (changelog output : List Char) :
    Prop :=
  ∃ before after, lines changelog = before ++ after ∧
    lines output = before ++ blockLines version date files ++ after ∧
    Placed (lines changelog) before

/-- Awk keeps the lines of the header and of the bodies, and there is a marker, or the block reads
the same at the end as at the top. -/
structure Harmless (awk : Awk) (version date : String) (files : List TextFile)
    (changelog : List Char) : Prop where
  header : ∀ line ∈ lines (header version date ++ ['\n']), awk.Keeps line
  bodies : ∀ file ∈ collect files, ∀ line ∈ bodyLines file, awk.Keeps line
  placed : (∃ line ∈ lines changelog, IsUnreleased line) ∨
    blockLines version date files ++ lines changelog =
      lines changelog ++ blockLines version date files

variable {read : List Line} {file : String} {reader final : Reader} {body bucket : List Char}
  {entry : List Line} {fragment : Fragment} {text : TextFile} {files : List TextFile}

/-! ## Reading -/

theorem body_of_past (past : reader.pastFrontmatter = true)
    (ended : read.foldlM (Reader.read file) reader = .ok final) :
    final.body = reader.body ++ unlines (read.map chomp) := by
  induction read generalizing reader with
  | nil =>
      cases ended
      exact (List.append_nil _).symm
  | cons raw rest ih =>
      rw [List.foldlM_cons, Reader.read, if_pos past] at ended
      obtain ⟨next, same, ended⟩ := Except.bind_eq_ok.mp ended
      have made := Except.ok.inj same
      rw [ih (made ▸ past) ended, ← made, List.map_cons, unlines_cons, List.append_assoc,
        List.append_assoc]
      rfl

theorem body_of_inside (inside : reader.inFrontmatter = true)
    (unpassed : reader.pastFrontmatter = false) (empty : reader.body = [])
    (ended : read.foldlM (Reader.read file) reader = .ok final) :
    final.body = unlines (afterFence (read.map chomp)) := by
  induction read generalizing reader with
  | nil =>
      cases ended
      exact empty
  | cons raw rest ih =>
      rw [List.foldlM_cons, Reader.read] at ended
      simp only [inside, unpassed, if_true, Bool.false_eq_true, if_false] at ended
      rw [List.map_cons, afterFence]
      by_cases closes : chomp raw = fence
      · rw [if_pos closes] at ended
        obtain ⟨next, same, ended⟩ := Except.bind_eq_ok.mp ended
        have made := Except.ok.inj same
        rw [List.dropWhile_cons_of_neg (by simp [closes]), body_of_past (made ▸ rfl) ended, ← made]
        exact congrArg (· ++ _) empty
      · rw [if_neg closes] at ended
        rw [List.dropWhile_cons_of_pos (by simp [closes])]
        split at ended
        · obtain ⟨next, same, ended⟩ := Except.bind_eq_ok.mp ended
          have made := Except.ok.inj same
          exact ih (made ▸ rfl) (made ▸ rfl) (made ▸ empty) ended
        · obtain ⟨next, same, ended⟩ := Except.bind_eq_ok.mp ended
          have made := Except.ok.inj same
          exact ih (made ▸ inside) (made ▸ unpassed) (made ▸ empty) ended

theorem body_of_outside (outside : reader.inFrontmatter = false)
    (unpassed : reader.pastFrontmatter = false) (empty : reader.body = [])
    (ended : read.foldlM (Reader.read file) reader = .ok final) :
    final.body = unlines (afterFence (afterFence (read.map chomp))) := by
  induction read generalizing reader with
  | nil =>
      cases ended
      exact empty
  | cons raw rest ih =>
      rw [List.foldlM_cons, Reader.read] at ended
      simp only [outside, unpassed, Bool.false_eq_true, if_false] at ended
      rw [List.map_cons, afterFence.eq_def (chomp raw :: _)]
      by_cases opens : chomp raw = fence
      · rw [if_pos opens] at ended
        obtain ⟨next, same, ended⟩ := Except.bind_eq_ok.mp ended
        have made := Except.ok.inj same
        rw [List.dropWhile_cons_of_neg (by simp [opens]),
          body_of_inside (made ▸ rfl) (made ▸ rfl) (made ▸ empty) ended]
        rfl
      · rw [if_neg opens] at ended
        rw [List.dropWhile_cons_of_pos (by simp [opens])]
        split at ended
        · obtain ⟨next, same, ended⟩ := Except.bind_eq_ok.mp ended
          have made := Except.ok.inj same
          exact ih (made ▸ outside) (made ▸ unpassed) (made ▸ empty) ended
        · obtain ⟨next, impossible, -⟩ := Except.bind_eq_ok.mp ended
          cases impossible

/-- A line after the fences has no line feed. -/
theorem oneLine_afterFence : ∀ line ∈ afterFence (afterFence ((lines text.chars).map chomp)),
    '\n' ∉ line := by
  intro line member
  have kept : (afterFence (afterFence ((lines text.chars).map chomp))).Sublist
      ((lines text.chars).map chomp) :=
    (List.tail_sublist _).trans <| (List.dropWhile_sublist _).trans <|
      (List.tail_sublist _).trans (List.dropWhile_sublist _)
  obtain ⟨raw, read, rfl⟩ := List.mem_map.mp (kept.subset member)
  unfold chomp
  split
  · exact fun feed => not_mem_of_mem_lines read ((List.dropLast_sublist raw).subset feed)
  · exact not_mem_of_mem_lines read

/-! ## Texts of lines -/

/-- A text is what lines are written as, but for its last line feed. -/
def Spells (entry : List Line) (text : List Char) : Prop :=
  (entry = [] ∧ text = []) ∨ (entry ≠ [] ∧ text ≠ [] ∧ text ++ ['\n'] = unlines entry)

theorem dropWhile_unlines (oneLine : ∀ line ∈ read, '\n' ∉ line) :
    (unlines read).dropWhile (· = '\n') = unlines (read.dropWhile (· = [])) := by
  induction read with
  | nil => rfl
  | cons line rest ih =>
      obtain ⟨here, later⟩ := List.forall_mem_cons.mp oneLine
      rw [unlines_cons]
      cases line with
      | nil =>
          rw [List.nil_append, List.dropWhile_cons_of_pos (by simp),
            List.dropWhile_cons_of_pos (by simp), ih later]
      | cons char line =>
          have apart : char ≠ '\n' := fun same => here (same ▸ List.mem_cons_self ..)
          rw [List.dropWhile_cons_of_neg (by simp), unlines_cons, List.cons_append,
            List.dropWhile_cons_of_neg (by simp [apart])]

/-- Lines are written with a line feed at their end. -/
theorem exists_unlines_eq (some : read ≠ []) : ∃ front last, read = front ++ [last] ∧
    unlines read = unlines front ++ last ++ ['\n'] := by
  obtain ⟨front, last, rfl⟩ := (List.eq_nil_or_concat read).resolve_left some
  rw [List.concat_eq_append] at *
  exact ⟨front, last, rfl, by rw [unlines_append, unlines_cons]; simp⟩

theorem spells_trimBody (oneLine : ∀ line ∈ read, '\n' ∉ line) :
    Spells (read.dropWhile (· = [])) (trimBody (unlines read)) := by
  unfold trimBody
  rw [dropWhile_unlines oneLine]
  by_cases none : read.dropWhile (· = []) = []
  · left
    rw [none]
    exact ⟨rfl, rfl⟩
  · right
    have notBlank : (read.dropWhile (· = [])).head none ≠ [] := by
      have kept := List.head_dropWhile_not (fun line => decide (line = [])) none
      exact of_decide_eq_false kept
    obtain ⟨front, last, split, written⟩ := exists_unlines_eq none
    dsimp only
    rw [written, List.getLast?_concat, if_pos rfl, List.dropLast_concat]
    refine ⟨none, ?_, rfl⟩
    intro empty
    obtain ⟨noFront, noLast⟩ := List.append_eq_nil_iff.mp empty
    cases front with
    | nil =>
        simp only [split, List.nil_append, List.head_cons] at notBlank
        exact notBlank noLast
    | cons line front =>
        rw [unlines_cons] at noFront
        exact absurd noFront (List.append_ne_nil_of_right_ne_nil _ (List.cons_ne_nil _ _))

/-- Lines below others. -/
def addLines (above : List Line) (entry : List Line) : List Line :=
  if above = [] then entry else above ++ if entry = [] then [[]] else entry

theorem spells_addBody {above : List Line} (bucketSpelt : Spells above bucket)
    (bodySpelt : Spells entry body) : Spells (addLines above entry) (addBody bucket body) := by
  unfold addLines addBody
  rcases bucketSpelt with ⟨noLines, noText⟩ | ⟨someLines, someText, written⟩
  · rw [if_pos noLines, if_neg (not_not.mpr noText)]
    exact bodySpelt
  · rw [if_neg someLines, if_pos someText]
    right
    refine ⟨List.append_ne_nil_of_left_ne_nil someLines _,
      List.append_ne_nil_of_left_ne_nil someText _, ?_⟩
    rw [unlines_append, ← written]
    rcases bodySpelt with ⟨noEntry, noBody⟩ | ⟨someEntry, -, bodyWritten⟩
    · rw [if_pos noEntry, noBody]
      simp
    · rw [if_neg someEntry, ← bodyWritten]
      simp

theorem stacked_concat (bodies : List (List Line)) (entry : List Line) :
    stacked (bodies ++ [entry]) = addLines (stacked bodies) entry := by
  unfold stacked addLines
  rw [List.dropWhile_append]
  cases kept : bodies.dropWhile (· = []) with
  | nil =>
      by_cases none : entry = []
      · simp [none]
      · simp [none]
  | cons first rest =>
      have some : first ≠ [] := by
        have notBlank := List.head?_dropWhile_not (· = []) bodies
        rw [kept] at notBlank
        exact of_decide_eq_false notBlank
      rw [List.isEmpty_cons, if_neg Bool.false_ne_true, List.flatMap_append, List.flatMap_cons,
        if_neg some, if_neg (List.append_ne_nil_of_left_ne_nil some _), List.flatMap_singleton]

theorem foldl_addLines (bodies : List (List Line)) : bodies.foldl addLines [] = stacked bodies := by
  induction bodies using List.reverseRecOn with
  | nil => rfl
  | append_singleton bodies entry ih => rw [List.foldl_append, ih, stacked_concat]; rfl

/-! ## The buckets -/

/-- A bucket has the bodies of its category. -/
theorem foldl_addFragment (fragments : List Fragment) (buckets : Line → List Char) (group : Line) :
    fragments.foldl addFragment buckets group =
      (fragments.filter fun fragment => fragment.category = group).foldl
        (fun bucket fragment => addBody bucket fragment.body) (buckets group) := by
  induction fragments generalizing buckets with
  | nil => rfl
  | cons fragment rest ih =>
      rw [List.foldl_cons, ih]
      unfold addFragment
      by_cases same : fragment.category = group
      · rw [List.filter_cons_of_pos (by simp [same]), List.foldl_cons, same,
          Function.update_self]
      · rw [List.filter_cons_of_neg (by simp [same]), Function.update_of_ne (Ne.symm same)]

/-- A fragment that is accepted has the category and the body of its file. -/
theorem parseFragment_spells (parsed : parseFragment text = .ok fragment) :
    category text = fragment.category ∧ Spells (bodyLines text) fragment.body := by
  refine ⟨by unfold category; rw [parsed], ?_⟩
  obtain ⟨reader, read, checked⟩ := Except.bind_eq_ok.mp parsed
  have body := body_of_outside rfl rfl rfl read
  split at checked
  · cases checked
  · split at checked
    · rw [← Except.ok.inj checked, body]
      exact spells_trimBody oneLine_afterFence
    · cases checked

/-- The bodies of a category are gathered in its bucket. -/
theorem spells_foldl {texts : List TextFile} {fragments : List Fragment} {group : Line}
    (parsed : texts.mapM parseFragment = .ok fragments) {above : List Line} {bucket : List Char}
    (spelt : Spells above bucket) :
    Spells (((texts.filter fun text => category text = group).map bodyLines).foldl addLines above)
      ((fragments.filter fun fragment => fragment.category = group).foldl
        (fun bucket fragment => addBody bucket fragment.body) bucket) := by
  induction texts generalizing fragments above bucket with
  | nil =>
      rw [List.mapM_nil] at parsed
      cases parsed
      exact spelt
  | cons text rest ih =>
      rw [List.mapM_cons] at parsed
      obtain ⟨fragment, here, parsed⟩ := Except.bind_eq_ok.mp parsed
      obtain ⟨others, later, same⟩ := Except.bind_eq_ok.mp parsed
      cases same
      obtain ⟨sameCategory, body⟩ := parseFragment_spells here
      by_cases inGroup : fragment.category = group
      · rw [List.filter_cons_of_pos (by simp [sameCategory, inGroup]),
          List.filter_cons_of_pos (by simp [inGroup]), List.map_cons, List.foldl_cons,
          List.foldl_cons]
        exact ih later (spells_addBody spelt body)
      · rw [List.filter_cons_of_neg (by simp [sameCategory, inGroup]),
          List.filter_cons_of_neg (by simp [inGroup])]
        exact ih later spelt

theorem spells_bucket {fragments : List Fragment}
    (parsed : (collect files).mapM parseFragment = .ok fragments) (group : Line) :
    Spells (entries files group) (fillBuckets fragments group) := by
  unfold entries fillBuckets
  rw [foldl_addFragment, ← foldl_addLines]
  exact spells_foldl parsed (Or.inl ⟨rfl, rfl⟩)

/-! ## The block -/

/-- The lines of the block before the blank one at its end. -/
def innerLines (version date : String) (files : List TextFile) : List Line :=
  lines (header version date ++ ['\n']) ++
    categories.flatMap fun group =>
      if entries files group = [] then [] else [] :: heading group :: entries files group

theorem blockLines_eq (version date : String) (files : List TextFile) :
    blockLines version date files = innerLines version date files ++ [[]] := rfl

theorem unlines_groups {buckets : Line → List Char}
    (spelt : ∀ group, Spells (entries files group) (buckets group)) (groups : List Line) :
    (groups.flatMap fun category =>
        if buckets category = [] then []
        else '\n' :: heading category ++ '\n' :: buckets category ++ ['\n']) =
      unlines (groups.flatMap fun group =>
        if entries files group = [] then [] else [] :: heading group :: entries files group) := by
  induction groups with
  | nil => rfl
  | cons group rest ih =>
      rw [List.flatMap_cons, List.flatMap_cons, unlines_append, ih]
      congr 1
      rcases spelt group with ⟨noLines, noText⟩ | ⟨someLines, someText, written⟩
      · rw [if_pos noLines, if_pos noText]
        rfl
      · rw [if_neg someLines, if_neg someText, unlines_cons, unlines_cons, ← written]
        simp

/-- The block is written from its lines. -/
theorem assembled_eq {version date : String} {buckets : Line → List Char}
    (spelt : ∀ group, Spells (entries files group) (buckets group)) :
    assembled version date buckets = unlines (innerLines version date files) := by
  unfold assembled innerLines
  rw [unlines_groups spelt, unlines_append, unlines_lines, List.append_assoc]
  rfl

theorem oneLine_entries {group : Line} : ∀ line ∈ entries files group, '\n' ∉ line := by
  intro line member
  obtain ⟨body, stackedBody, inBody⟩ := List.mem_flatMap.mp member
  obtain ⟨text, -, rfl⟩ := List.mem_map.mp ((List.dropWhile_sublist _).subset stackedBody)
  split at inBody
  · rw [List.mem_singleton.mp inBody]
    exact List.not_mem_nil
  · exact oneLine_afterFence line ((List.dropWhile_sublist _).subset inBody)

theorem oneLine_innerLines {version date : String} :
    ∀ line ∈ innerLines version date files, '\n' ∉ line := by
  have headings : ∀ group ∈ categories, '\n' ∉ heading group := by decide
  intro line member
  rcases List.mem_append.mp member with first | later
  · exact not_mem_of_mem_lines first
  · obtain ⟨group, known, inGroup⟩ := List.mem_flatMap.mp later
    split at inGroup
    · cases inGroup
    · rcases List.mem_cons.mp inGroup with rfl | inGroup
      · exact List.not_mem_nil
      · rcases List.mem_cons.mp inGroup with rfl | inGroup
        · exact headings group known
        · exact oneLine_entries line inGroup

/-- The lines of the block are kept when those of the header and of the bodies are. -/
theorem keeps_innerLines {awk : Awk} {version date : String} :
    (∀ line ∈ innerLines version date files, awk.Keeps line) ↔
      (∀ line ∈ lines (header version date ++ ['\n']), awk.Keeps line) ∧
        ∀ group ∈ categories, ∀ line ∈ entries files group, awk.Keeps line := by
  have blank : awk.Keeps [] := Awk.keeps_of_not_mem List.not_mem_nil
  have headings : ∀ group ∈ categories, awk.Keeps (heading group) := by
    have plain : ∀ group ∈ categories, '\\' ∉ heading group := by decide
    exact fun group known => Awk.keeps_of_not_mem (plain group known)
  unfold innerLines
  rw [List.forall_mem_append]
  apply and_congr_right
  intro _
  constructor
  · intro keeps group known line member
    apply keeps line
    apply List.mem_flatMap.mpr
    refine ⟨group, known, ?_⟩
    rw [if_neg (List.ne_nil_of_mem member)]
    exact List.mem_cons_of_mem _ (List.mem_cons_of_mem _ member)
  · intro keeps line member
    obtain ⟨group, known, inGroup⟩ := List.mem_flatMap.mp member
    split at inGroup
    · cases inGroup
    · rcases List.mem_cons.mp inGroup with rfl | inGroup
      · exact blank
      · rcases List.mem_cons.mp inGroup with rfl | inGroup
        · exact headings group known
        · exact keeps group known line inGroup

/-- Accepted fragments have a known category. -/
theorem category_mem {fragments : List Fragment}
    (parsed : (collect files).mapM parseFragment = .ok fragments) (member : text ∈ collect files) :
    category text ∈ categories := by
  have all : ((collect files).mapM parseFragment).isOk = true := by
    rw [parsed]
    rfl
  have accepted := Except.isOk_mapM_iff.mp all text member
  cases here : parseFragment text with
  | error error =>
      rw [here] at accepted
      cases accepted
  | ok fragment =>
      rw [(parseFragment_spells here).1]
      obtain ⟨reader, -, checked⟩ := Except.bind_eq_ok.mp here
      split at checked
      · cases checked
      · split at checked
        · rename_i known
          rw [← Except.ok.inj checked]
          exact known
        · cases checked

theorem mem_dropWhile {α : Type*} {skipped : α → Bool} {items : List α} {item : α}
    (member : item ∈ items) (kept : skipped item = false) : item ∈ items.dropWhile skipped := by
  rw [← List.takeWhile_append_dropWhile (p := skipped) (l := items)] at member
  rcases List.mem_append.mp member with early | late
  · rw [List.mem_takeWhile_imp early] at kept
    cases kept
  · exact late

theorem mem_entries_of_mem {group line : Line} (member : text ∈ collect files)
    (inGroup : category text = group) (inBody : line ∈ bodyLines text) :
    line ∈ entries files group := by
  have some : bodyLines text ≠ [] := List.ne_nil_of_mem inBody
  have held : bodyLines text ∈
      ((collect files).filter fun text => category text = group).map bodyLines :=
    List.mem_map_of_mem (List.mem_filter.mpr ⟨member, decide_eq_true inGroup⟩)
  apply List.mem_flatMap.mpr
  refine ⟨bodyLines text, mem_dropWhile held (decide_eq_false some), ?_⟩
  rw [if_neg some]
  exact inBody

/-- The entries are kept when the bodies are. -/
theorem keeps_entries {awk : Awk} {fragments : List Fragment}
    (parsed : (collect files).mapM parseFragment = .ok fragments) :
    (∀ group ∈ categories, ∀ line ∈ entries files group, awk.Keeps line) ↔
      ∀ text ∈ collect files, ∀ line ∈ bodyLines text, awk.Keeps line := by
  constructor
  · intro keeps text member line inBody
    exact keeps _ (category_mem parsed member) line (mem_entries_of_mem member rfl inBody)
  · intro keeps group _ line inEntries
    obtain ⟨body, stackedBody, inBody⟩ := List.mem_flatMap.mp inEntries
    obtain ⟨text, inGroup, rfl⟩ := List.mem_map.mp ((List.dropWhile_sublist _).subset stackedBody)
    split at inBody
    · rw [List.mem_singleton.mp inBody]
      exact Awk.keeps_of_not_mem List.not_mem_nil
    · exact keeps text (List.mem_filter.mp inGroup).1 line inBody

/-! ## The place -/

variable {block : List Char} {start middle rest : List Line} {marker : Line}

/-- After the marker, the block is put above the first section. -/
theorem splice_true (block : List Char) (read : List Line) : ∃ before after,
    read = before ++ after ∧
    splice block true read = unlines before ++ (block ++ '\n' :: unlines after) ∧
    (∀ line ∈ before, StartsSection line → IsUnreleased line) ∧
    ∀ line ∈ after.head?, StartsSection line ∧ ¬ IsUnreleased line := by
  induction read with
  | nil => exact ⟨[], [], rfl, rfl, by simp, by simp⟩
  | cons line rest ih =>
      obtain ⟨before, after, split, printed, passed, stopped⟩ := ih
      rw [splice]
      by_cases marks : IsUnreleased line
      · rw [if_pos marks, printed]
        refine ⟨line :: before, after, by rw [split]; rfl, by rw [unlines_cons]; simp, ?_, stopped⟩
        exact List.forall_mem_cons.mpr ⟨fun _ => marks, passed⟩
      · rw [if_neg marks]
        by_cases starts : StartsSection line
        · rw [if_pos ⟨rfl, starts⟩]
          refine ⟨[], line :: rest, rfl, by rw [unlines_cons]; rfl, by simp, ?_⟩
          intro first same
          rw [← Option.some.inj same]
          exact ⟨starts, marks⟩
        · rw [if_neg fun both => starts both.2, printed]
          refine ⟨line :: before, after, by rw [split]; rfl, by rw [unlines_cons]; simp, ?_,
            stopped⟩
          exact List.forall_mem_cons.mpr ⟨fun held => absurd held starts, passed⟩

/-- Without a marker the block is put at the end. -/
theorem splice_unmarked (unmarked : ∀ line ∈ read, ¬ IsUnreleased line) :
    splice block false read = unlines read ++ (block ++ ['\n']) := by
  induction read with
  | nil => rfl
  | cons line rest ih =>
      obtain ⟨here, later⟩ := List.forall_mem_cons.mp unmarked
      rw [splice, if_neg here, if_neg (by simp), ih later, unlines_cons]
      simp

theorem splice_marked (unmarked : ∀ line ∈ start, ¬ IsUnreleased line)
    (marks : IsUnreleased marker) :
    splice block false (start ++ marker :: rest) =
      unlines (start ++ [marker]) ++ splice block true rest := by
  induction start with
  | nil =>
      rw [List.nil_append, splice, if_pos marks]
      simp
  | cons line start ih =>
      obtain ⟨here, later⟩ := List.forall_mem_cons.mp unmarked
      rw [List.cons_append, splice, if_neg here, if_neg (by simp), ih later, List.cons_append,
        unlines_cons]
      simp

/-- The first element with a property parts a list in one way. -/
theorem first_unique {α : Type*} (holds : α → Prop) {before other after more : List α}
    {first second : α} (same : before ++ first :: after = other ++ second :: more)
    (noneBefore : ∀ item ∈ before, ¬ holds item) (noneOther : ∀ item ∈ other, ¬ holds item)
    (firstHolds : holds first) (secondHolds : holds second) :
    before = other ∧ first = second ∧ after = more := by
  induction before generalizing other with
  | nil =>
      cases other with
      | nil => exact ⟨rfl, List.cons.inj same⟩
      | cons item other =>
          obtain ⟨rfl, -⟩ := List.cons.inj same
          exact absurd firstHolds (noneOther first (List.mem_cons_self ..))
  | cons item before ih =>
      obtain ⟨here, later⟩ := List.forall_mem_cons.mp noneBefore
      cases other with
      | nil =>
          obtain ⟨rfl, -⟩ := List.cons.inj same
          exact absurd secondHolds here
      | cons held other =>
          obtain ⟨rfl, tails⟩ := List.cons.inj same
          obtain ⟨rfl, rest⟩ := ih tails later fun item member =>
            noneOther item (List.mem_cons_of_mem _ member)
          exact ⟨rfl, rest⟩

/-- With a marker the block is put in its place. -/
theorem splice_placed (block : List Char) (marked : ∃ line ∈ read, IsUnreleased line) : ∃ before after,
    read = before ++ after ∧
    splice block false read = unlines before ++ (block ++ '\n' :: unlines after) ∧
    Placed read before := by
  obtain ⟨start, marker, rest, rfl, marks, unmarked⟩ : ∃ start marker rest,
      read = start ++ marker :: rest ∧ IsUnreleased marker ∧
        ∀ line ∈ start, ¬ IsUnreleased line := by
    obtain ⟨line, member, marks⟩ := marked
    cases found : read.find? fun line => IsUnreleased line with
    | none => exact absurd (decide_eq_true marks) (List.find?_eq_none.mp found line member)
    | some marker =>
        obtain ⟨marks, start, rest, split, unmarked⟩ := List.find?_eq_some_iff_append.mp found
        refine ⟨start, marker, rest, split, of_decide_eq_true marks, fun line member marks => ?_⟩
        have not := unmarked line member
        rw [decide_eq_true marks] at not
        cases not
  obtain ⟨before, after, rfl, printed, passed, stopped⟩ := splice_true block rest
  refine ⟨start ++ marker :: before, after, by simp, ?_, ?_, ?_⟩
  · rw [splice_marked unmarked marks, printed]
    simp
  · intro otherStart other middle version more same otherUnmarked otherMarks between starts
      released
    obtain ⟨rfl, rfl, tails⟩ :=
      first_unique IsUnreleased same unmarked otherUnmarked marks otherMarks
    suffices inner : before = middle by rw [inner]
    cases after with
    | nil =>
        rw [List.append_nil] at tails
        have inside : version ∈ before := by
          rw [tails]
          exact List.mem_append_right _ (List.mem_cons_self ..)
        exact absurd (passed version inside starts) released
    | cons first after =>
        have begins := stopped first rfl
        exact (first_unique (fun line => StartsSection line ∧ ¬ IsUnreleased line) tails
          (fun line member both => both.2 (passed line member both.1))
          (fun line member both => both.2 (between line member both.1)) begins
          ⟨starts, released⟩).1
  · intro none
    exact absurd marks (none marker (List.mem_append_right _ (List.mem_cons_self ..)))

/-- Where the block is put. -/
theorem exists_splice_eq (block : List Char) (read : List Line) : ∃ before after,
    read = before ++ after ∧
    splice block false read = unlines before ++ (block ++ '\n' :: unlines after) ∧
    ((∃ line ∈ read, IsUnreleased line) ∧ Placed read before ∨
      (∀ line ∈ read, ¬ IsUnreleased line) ∧ after = []) := by
  by_cases marked : ∃ line ∈ read, IsUnreleased line
  · obtain ⟨before, after, split, printed, placed⟩ := splice_placed block marked
    exact ⟨before, after, split, printed, Or.inl ⟨marked, placed⟩⟩
  · have unmarked : ∀ line ∈ read, ¬ IsUnreleased line := by
      intro line member marks
      exact marked ⟨line, member, marks⟩
    exact ⟨read, [], (List.append_nil read).symm, splice_unmarked unmarked, Or.inr ⟨unmarked, rfl⟩⟩

/-! ## The changelog -/

theorem lines_printed {before after : List Line} (oneLine : ∀ line ∈ before ++ after, '\n' ∉ line)
    (block : List Char) : lines (unlines before ++ (block ++ '\n' :: unlines after)) =
      before ++ lines (block ++ ['\n']) ++ after := by
  obtain ⟨front, back⟩ := List.forall_mem_append.mp oneLine
  rw [lines_unlines_append front, lines_append, lines_unlines back, List.append_assoc]

theorem lines_innerLines (version date : String) (files : List TextFile) :
    lines (unlines (innerLines version date files) ++ ['\n']) = blockLines version date files := by
  rw [lines_unlines_append oneLine_innerLines]
  rfl

/-- A block that stands among the lines has the length of the block that has been printed. -/
theorem length_expand {awk : Awk} {version date : String} {before after front back : List Line}
    (same : before ++ lines (awk.expand (unlines (innerLines version date files)) ++ ['\n']) ++
      after = front ++ blockLines version date files ++ back)
    (whole : before ++ after = front ++ back) :
    (awk.expand (unlines (innerLines version date files))).length =
      (unlines (innerLines version date files)).length := by
  have printed := congrArg (fun read => (unlines read).length) same
  have kept := congrArg (fun read => (unlines read).length) whole
  simp only [unlines_append, unlines_lines, blockLines_eq, List.length_append, unlines_cons,
    unlines_nil, List.length_cons, List.length_nil] at printed kept
  omega

/-- What a successful run prints. -/
theorem assemble_ok {awk : Awk} {version date : String} {prune : Bool} {changelog output : List Char}
    {remaining : List TextFile}
    (ended : assemble awk version date prune files (some changelog) = .ok (output, remaining)) :
    ∃ fragments, (collect files).mapM parseFragment = .ok fragments ∧
      output = splice (awk.expand (unlines (innerLines version date files))) false
        (lines changelog) := by
  unfold assemble at ended
  split at ended
  · cases ended
  · split at ended
    · cases ended
    · obtain ⟨fragments, parsed, ended⟩ := Except.bind_eq_ok.mp ended
      dsimp only at ended
      split at ended
      · cases ended
      · refine ⟨fragments, parsed, ?_⟩
        rw [assembled_eq (spells_bucket parsed)] at ended
        exact (Prod.mk.inj (Except.ok.inj ended)).1.symm

/-- In a changelog without loss awk has kept the lines of the block. -/
theorem keeps_of_lossless {awk : Awk} {version date : String} {changelog : List Char}
    (lossless : Lossless version date files changelog
      (splice (awk.expand (unlines (innerLines version date files))) false (lines changelog))) :
    ∀ line ∈ innerLines version date files, awk.Keeps line := by
  obtain ⟨before, after, whole, same, -⟩ := lossless
  have oneLine : ∀ line ∈ lines changelog, '\n' ∉ line := fun _ => not_mem_of_mem_lines
  obtain ⟨front, back, split, print, -⟩ := exists_splice_eq
    (awk.expand (unlines (innerLines version date files))) (lines changelog)
  rw [print, lines_printed (split ▸ oneLine)] at same
  exact Awk.keeps_of_length (length_expand same (split.symm.trans whole))

/-- **The changelog is assembled without loss** exactly when awk keeps the lines of the header and of
the bodies, and there is a marker, or the block reads the same at the end as at the top. -/
theorem lossless_iff {awk : Awk} {version date : String} {prune : Bool}
    {files : List TextFile} {changelog output : List Char} {remaining : List TextFile}
    (ended : assemble awk version date prune files (some changelog) = .ok (output, remaining)) :
    Lossless version date files changelog output ↔ Harmless awk version date files changelog := by
  obtain ⟨fragments, parsed, rfl⟩ := assemble_ok ended
  have oneLine : ∀ line ∈ lines changelog, '\n' ∉ line := fun _ => not_mem_of_mem_lines
  have keepsAll : (∀ line ∈ innerLines version date files, awk.Keeps line) ↔
      (∀ line ∈ lines (header version date ++ ['\n']), awk.Keeps line) ∧
        ∀ text ∈ collect files, ∀ line ∈ bodyLines text, awk.Keeps line :=
    keeps_innerLines.trans (and_congr_right fun _ => keeps_entries parsed)
  obtain ⟨front, back, split, print, put⟩ := exists_splice_eq
    (awk.expand (unlines (innerLines version date files))) (lines changelog)
  have read := lines_printed (split ▸ oneLine) (awk.expand (unlines (innerLines version date files)))
  rw [← print] at read
  constructor
  · intro lossless
    have keeps := keeps_of_lossless lossless
    obtain ⟨header, bodies⟩ := keepsAll.mp keeps
    refine ⟨header, bodies, ?_⟩
    rcases put with ⟨marked, -⟩ | ⟨unmarked, atEnd⟩
    · exact Or.inl marked
    · obtain ⟨before, after, whole, same, placed⟩ := lossless
      right
      rw [read, Awk.expand_unlines keeps, lines_innerLines, atEnd, List.append_nil] at same
      rw [atEnd, List.append_nil] at split
      rw [placed.top unmarked, List.nil_append] at same whole
      rw [whole, ← same, ← split, whole]
  · intro ⟨header, bodies, placed⟩
    unfold Lossless
    rw [read, Awk.expand_unlines (keepsAll.mpr ⟨header, bodies⟩), lines_innerLines]
    rcases put with ⟨-, place⟩ | ⟨unmarked, atEnd⟩
    · exact ⟨front, back, split, rfl, place⟩
    · rcases placed with ⟨line, member, marks⟩ | commutes
      · exact absurd marks (unmarked line member)
      · refine ⟨[], lines changelog, rfl, ?_, ⟨?_, fun _ => rfl⟩⟩
        · rw [atEnd, List.append_nil] at split ⊢
          rw [List.nil_append, commutes, ← split]
        · intro start marker middle version rest whole _ marks
          have inside : marker ∈ lines changelog := by
            rw [whole]
            exact List.mem_append_right _ (List.mem_cons_self ..)
          exact absurd marks (unmarked marker inside)

/-- A fragment with one bullet. -/
def bulletFile : TextFile where
  name := "20260101T000000Z-a.md"
  chars := "---\ncategory: Added\n---\n\n- one\n".toList
  noNul := by decide

/-- The theorem on a changelog with a marker. -/
theorem lossless_iff_bullet : ∃ output remaining,
    assemble .dropping "v1" "2026-01-01" true [bulletFile] (some "## [Unreleased]\n".toList) =
      .ok (output, remaining) ∧
    (Lossless "v1" "2026-01-01" [bulletFile] "## [Unreleased]\n".toList output ↔
      Harmless .dropping "v1" "2026-01-01" [bulletFile] "## [Unreleased]\n".toList) := by
  have succeeds : (assemble .dropping "v1" "2026-01-01" true [bulletFile]
      (some "## [Unreleased]\n".toList)).isOk = true := rfl
  obtain ⟨⟨output, remaining⟩, ended⟩ := Except.exists_of_isOk succeeds
  exact ⟨output, remaining, ended, lossless_iff ended⟩

/-- A fragment that speaks of a line feed. -/
def backslashFile : TextFile where
  name := "20260101T000000Z-a.md"
  chars := "---\ncategory: Fixed\n---\n\n- split at \\n\n".toList
  noNul := by decide

/-- The two characters of the escape sequence become a line feed. -/
theorem not_lossless_backslash : ¬ ∀ (awk : Awk) (version date : String) (prune : Bool)
    (files : List TextFile) (changelog output : List Char) (remaining : List TextFile),
    assemble awk version date prune files (some changelog) = .ok (output, remaining) →
      Lossless version date files changelog output := by
  intro lossless
  have succeeds : (assemble .dropping "v1" "2026-01-01" true [backslashFile]
      (some "## [Unreleased]\n".toList)).isOk = true := rfl
  obtain ⟨⟨output, remaining⟩, ended⟩ := Except.exists_of_isOk succeeds
  have kept := lossless _ _ _ _ _ _ _ _ ended
  obtain ⟨fragments, parsed, same⟩ := assemble_ok ended
  rw [same] at kept
  have bullet : "- split at \\n".toList ∈
      innerLines "v1" "2026-01-01" [backslashFile] := by decide
  have keeps : Awk.dropping.expand ("- split at ".toList ++ '\\' :: 'n' :: ['\n']) =
      "- split at ".toList ++ '\\' :: 'n' :: ['\n'] := keeps_of_lossless kept _ bullet
  rw [Awk.expand_append_of_not_mem (by decide), Awk.expand_backslash] at keeps
  have feeds : '\n' :: Awk.dropping.expand ['\n'] = '\\' :: 'n' :: ['\n'] :=
    List.append_cancel_left keeps
  exact Awk.newline_ne_backslash (List.cons.inj feeds).1

end Panakoes.Changelog
