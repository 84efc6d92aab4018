import Mathlib.Data.List.DropRight
import Mathlib.Data.String.Basic
import Panakoes.Foundation.AwkEscapes
import Panakoes.Foundation.PagedQuery
import Panakoes.Foundation.PyJson

/-! # Assembling the changelog

The fragments of a directory are read line by line, gathered by category and written as one block
into the changelog. The block is handed to awk as the value of a variable that is assigned on the
command line. White space is that of the C locale.
-/

namespace Panakoes.Changelog

open TextLines

/-- A line without its line feed. -/
abbrev Line := List Char

/-- A text file of the directory. A text has no NUL. -/
structure TextFile where
  name : String
  chars : List Char
  noNul : '\x00' ∉ chars

/-- How the script fails. -/
inductive AssemblyError where
  | versionRequired
  | noFragments
  | missingFence (file : String)
  | missingCategory (file : String)
  | unknownCategory (file : String) (category : Line)
  | noContent
  | noChangelog

/-- `CATEGORIES`. -/
def categories : List Line :=
  ["Added".toList, "Changed".toList, "Deprecated".toList, "Removed".toList, "Fixed".toList,
    "Security".toList]

/-- The exit code. -/
def AssemblyError.exitCode : AssemblyError → ℕ
  | .versionRequired | .noChangelog => 2
  | .noFragments => 1
  | .missingFence _ | .missingCategory _ | .unknownCategory _ _ | .noContent => 3

/-- What is written to the standard error. -/
def AssemblyError.message (fragmentsDir changelogPath : String) : AssemblyError → String
  | .versionRequired => "error: --version is required unless --dry-run is set"
  | .noFragments => s!"error: no fragments to assemble in {fragmentsDir}"
  | .missingFence file =>
      s!"error: fragment {fragmentsDir}/{file} missing opening '---' frontmatter fence"
  | .missingCategory file =>
      s!"error: fragment {fragmentsDir}/{file} missing 'category:' in frontmatter"
  | .unknownCategory file category =>
      s!"error: fragment {fragmentsDir}/{file} has unknown category '{String.ofList category}' " ++
        "(valid: Added Changed Deprecated Removed Fixed Security)"
  | .noContent => "error: fragments parsed but no categories had content"
  | .noChangelog => s!"error: CHANGELOG.md not found at {changelogPath}"

/-- The fragments, in the order of their names. -/
def collect (files : List TextFile) : List TextFile :=
  PagedQuery.inOrder TextFile.name
    (files.filter fun file => ".md".toList <:+ file.name.toList ∧ file.name ≠ "README.md")

/-! ## Reading a fragment -/

/-- `---`. -/
def fence : Line := "---".toList

/-- `${line%$'\r'}`. -/
def chomp (line : Line) : Line :=
  if line.getLast? = some '\r' then line.dropLast else line

/-- `[:space:]`. -/
def isSpace (char : Char) : Bool := [' ', '\t', '\n', '\x0b', '\x0c', '\r'].contains char

/-- White space stripped from both ends. -/
def strip (text : List Char) : List Char := (text.dropWhile isSpace).rdropWhile isSpace

/-- The variables of the loop over the lines. -/
structure Reader where
  category : Line
  inFrontmatter : Bool
  pastFrontmatter : Bool
  body : List Char

/-- Before the first line. -/
def Reader.initial : Reader := ⟨[], false, false, []⟩

/-- One line of a fragment. -/
def Reader.read (file : String) (reader : Reader) (raw : Line) : Except AssemblyError Reader :=
  let line := chomp raw
  if reader.pastFrontmatter then
    .ok { reader with body := reader.body ++ line ++ ['\n'] }
  else if reader.inFrontmatter then
    if line = fence then .ok { reader with pastFrontmatter := true }
    else if "category:".toList <+: line then
      .ok { reader with category := strip (line.drop "category:".length) }
    else .ok reader
  else if line = fence then .ok { reader with inFrontmatter := true }
  else if line = [] then .ok reader
  else .error (.missingFence file)

/-- A fragment that has been read. -/
structure Fragment where
  category : Line
  body : List Char

/-- The body without the blank lines it begins with, and without one line feed at its end. -/
def trimBody (body : List Char) : List Char :=
  let rest := body.dropWhile (· = '\n')
  if rest.getLast? = some '\n' then rest.dropLast else rest

/-- A fragment is read and checked. -/
def parseFragment (file : TextFile) : Except AssemblyError Fragment :=
  ((lines file.chars).foldlM (Reader.read file.name) Reader.initial).bind fun reader =>
    if reader.category = [] then .error (.missingCategory file.name)
    else if reader.category ∈ categories then .ok ⟨reader.category, trimBody reader.body⟩
    else .error (.unknownCategory file.name reader.category)

/-! ## Writing the block -/

/-- A body in its bucket. -/
def addBody (bucket body : List Char) : List Char :=
  if bucket ≠ [] then bucket ++ '\n' :: body else body

/-- `BUCKET` after one more fragment. -/
def addFragment (buckets : Line → List Char) (fragment : Fragment) : Line → List Char :=
  Function.update buckets fragment.category (addBody (buckets fragment.category) fragment.body)

/-- `BUCKET` after the loop. -/
def fillBuckets (fragments : List Fragment) : Line → List Char :=
  fragments.foldl addFragment fun _ => []

/-- The first line of the block. -/
def header (version date : String) : List Char := s!"## [{version}] - {date}".toList

/-- The heading of a category. -/
def heading (category : Line) : Line := "### ".toList ++ category

/-- `ASSEMBLED`. -/
def assembled (version date : String) (buckets : Line → List Char) : List Char :=
  header version date ++ '\n' :: categories.flatMap fun category =>
    if buckets category = [] then []
    else '\n' :: heading category ++ '\n' :: buckets category ++ ['\n']

/-- `/^## \[Unreleased\]/`. -/
def IsUnreleased (line : Line) : Prop := "## [Unreleased]".toList <+: line

/-- `/^## \[/`. -/
def StartsSection (line : Line) : Prop := "## [".toList <+: line

instance : DecidablePred IsUnreleased := fun _ => inferInstanceAs (Decidable (_ <+: _))

instance : DecidablePred StartsSection := fun _ => inferInstanceAs (Decidable (_ <+: _))

/-- What awk prints from a line on, while the block has not been inserted. -/
def splice (block : List Char) : Bool → List Line → List Char
  | _, [] => block ++ ['\n']
  | inUnreleased, line :: rest =>
      if IsUnreleased line then line ++ '\n' :: splice block true rest
      else if inUnreleased ∧ StartsSection line then
        block ++ '\n' :: (line ++ '\n' :: unlines rest)
      else line ++ '\n' :: splice block inUnreleased rest

/-- The script without `--dry-run`: the changelog, and the fragments that are left. -/
def assemble (awk : Awk) (version date : String) (prune : Bool) (files : List TextFile)
    (changelog : Option (List Char)) : Except AssemblyError (List Char × List TextFile) :=
  if version = "" then .error .versionRequired
  else if collect files = [] then .error .noFragments
  else
    ((collect files).mapM parseFragment).bind fun fragments =>
      let buckets := fillBuckets fragments
      if categories.all fun category => buckets category = [] then .error .noContent
      else
        match changelog with
        | none => .error .noChangelog
        | some changelog =>
            .ok (splice (awk.expand (assembled version date buckets)) false (lines changelog),
              if prune then [] else collect files)

end Panakoes.Changelog
