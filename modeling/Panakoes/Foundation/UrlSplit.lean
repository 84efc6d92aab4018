import Panakoes.Foundation.PyJson
import Panakoes.Foundation.WebUrl

/-! # URLs as Python splits them

`urllib.parse.urlsplit` for the scheme and the netloc of a URL, and the host name in a netloc. What
the Unicode tables of Python say is a parameter.
-/

namespace UrlSplit

open WebUrl

/-- `str.lower` and `unicodedata.normalize('NFKC', text)`. A text has a lower case in ASCII only if
it is in ASCII but for Kelvin signs. -/
structure Unicode where
  lower : List Char → List Char
  nfkc : List Char → List Char
  lower_eq : ∀ text, (∀ char ∈ text, Foldable char) → lower text = text.map foldCase
  foldable : ∀ text, (∀ char ∈ lower text, Foldable char) → ∀ char ∈ text, Foldable char

/-- The parts of a `SplitResult` that tell where a URL leads. -/
structure SplitResult where
  scheme : List Char
  netloc : List Char
  deriving DecidableEq

/-- The URL without what is stripped at its start, and what is removed everywhere. -/
def stripped (url : List Char) : List Char :=
  (url.dropWhile isC0OrSpace).filter (!isTabOrNewline ·)

/-- The scheme, in lower case, and what follows its colon. -/
def splitScheme (unicode : Unicode) (url : List Char) : List Char × List Char :=
  if ':' ∈ url ∧ (url.takeWhile (· ≠ ':')).head?.any Char.isAlpha = true ∧
      (url.takeWhile (· ≠ ':')).all isSchemeChar = true then
    (unicode.lower (url.takeWhile (· ≠ ':')), (url.dropWhile (· ≠ ':')).tail)
  else ([], url)

/-- `_splitnetloc`, if two slashes come first. -/
def splitNetloc (url : List Char) : List Char :=
  if "//".toList.isPrefixOf url then (url.drop 2).takeWhile (· ∉ ['/', '?', '#']) else []

/-- Hexadecimal digits. -/
def isHexDigit (char : Char) : Bool := char.isDigit || "abcdefABCDEF".toList.contains char

/-- A part of an IPv4 address. -/
def isOctet (text : List Char) : Bool :=
  text.all Char.isDigit && 0 < text.length && text.length ≤ 3 &&
    (text.head? != some '0' || text.length == 1) && Nat.ofDigitChars 10 text 0 ≤ 255

/-- `IPv4Address` raises nothing. -/
def isIpv4 (text : List Char) : Bool :=
  (text.splitOn '.').length == 4 && (text.splitOn '.').all isOctet

/-- A part of an IPv6 address. -/
def isHextet (text : List Char) : Bool :=
  text.all isHexDigit && 0 < text.length && text.length ≤ 4

/-- The parts before or after two colons. -/
def besideGap (parts : List (List Char)) : List (List Char) := if parts = [[]] then [] else parts

/-- The parts of an IPv6 address, the last of which may be an IPv4 address. -/
def areHextets (parts : List (List Char)) : Bool :=
  if parts.length < 3 ∨ 9 < parts.length then false
  else
    match parts.tail.dropLast.idxOf? [] with
    | some index =>
        let before := besideGap (parts.take (index + 1))
        let after := besideGap (parts.drop (index + 2))
        before.all isHextet && after.all isHextet && before.length + after.length ≤ 7
    | none => parts.length == 8 && parts.all isHextet

/-- `IPv6Address` raises nothing. -/
def isIpv6 (text : List Char) : Bool :=
  let scope := text.dropWhile (· ≠ '%')
  let parts := (text.takeWhile (· ≠ '%')).splitOn ':'
  let last := parts.getLast?.getD []
  !text.contains '/' && (scope.isEmpty || (1 < scope.length && !scope.tail.contains '%')) &&
    3 ≤ parts.length &&
    if last.contains '.' then isIpv4 last && areHextets (parts.dropLast ++ [['0'], ['0']])
    else areHextets parts

/-- The pattern of an IPvFuture address. -/
def isIpvFuture (text : List Char) : Bool :=
  let version := text.tail.takeWhile isHexDigit
  !version.isEmpty && (text.tail.dropWhile isHexDigit).head? == some '.' &&
    1 < (text.tail.dropWhile isHexDigit).length

/-- `_check_bracketed_host` raises nothing. -/
def isBracketedHost (host : List Char) : Bool :=
  if host.head? = some 'v' then isIpvFuture host else isIpv6 host

/-- `_hostinfo[0]`. -/
def hostInfo (netloc : List Char) : List Char :=
  if '[' ∈ afterAt netloc then
    ((afterAt netloc).dropWhile (· ≠ '[')).tail.takeWhile (· ≠ ']')
  else hostText (afterAt netloc)

/-- `_check_bracketed_netloc` raises nothing. -/
def isBracketedNetloc (netloc : List Char) : Bool :=
  let port := ((afterAt netloc).dropWhile (· ≠ ']')).tail
  (!(afterAt netloc).contains '[' ||
      ((afterAt netloc).head? == some '[' && (port.head? == none || port.head? == some ':'))) &&
    isBracketedHost (hostInfo netloc)

/-- `_checknetloc` raises nothing. -/
def isNetloc (unicode : Unicode) (netloc : List Char) : Bool :=
  netloc.all (fun char => decide (char.toNat < 128)) ||
    let text := netloc.filter (!"@:#?".toList.contains ·)
    unicode.nfkc text == text || (unicode.nfkc text).all (!"/?#@:".toList.contains ·)

/-- `urlsplit`. -/
def urlsplit (unicode : Unicode) (url : List Char) : Except PyError SplitResult :=
  let parts := splitScheme unicode (stripped url)
  let netloc := splitNetloc parts.2
  if netloc.contains '[' != netloc.contains ']' then .error .valueError
  else if netloc.contains '[' && !isBracketedNetloc netloc then .error .valueError
  else if isNetloc unicode netloc then .ok ⟨parts.1, netloc⟩
  else .error .valueError

/-- `SplitResult.hostname`. What follows a percent sign keeps its case. -/
def SplitResult.hostname (unicode : Unicode) (result : SplitResult) : Option (List Char) :=
  if hostInfo result.netloc = [] then none
  else some (unicode.lower ((hostInfo result.netloc).takeWhile (· ≠ '%')) ++
    (hostInfo result.netloc).dropWhile (· ≠ '%'))

/-! ## Lower case -/

/-- What holds of every character of ASCII is found by looking at each. -/
theorem of_ascii {holds : Char → Prop} (all : ∀ code < 128, holds (Char.ofNat code)) {char : Char}
    (ascii : char.toNat < 128) : holds char := by
  have same := all char.toNat ascii
  rwa [Char.ofNat_toNat] at same

theorem ascii_of_le {char last : Char} (upTo : char.val ≤ last.val) (ascii : last.toNat < 128) :
    char.toNat < 128 :=
  lt_of_le_of_lt (UInt32.le_iff_toNat_le.mp upTo) ascii

theorem foldCase_ascii {char : Char} (foldable : Foldable char) : (foldCase char).toNat < 128 := by
  have all : ∀ code < 128, (foldCase (Char.ofNat code)).toNat < 128 := by decide
  rcases foldable with ascii | rfl
  · exact @of_ascii (fun char => (foldCase char).toNat < 128) all _ ascii
  · decide

theorem foldCase_foldCase {char : Char} (foldable : Foldable char) :
    foldCase (foldCase char) = foldCase char := by
  have all : ∀ code < 128,
      foldCase (foldCase (Char.ofNat code)) = foldCase (Char.ofNat code) := by decide
  rcases foldable with ascii | rfl
  · exact @of_ascii (fun char => foldCase (foldCase char) = foldCase char) all _ ascii
  · decide

/-- What is stripped has no other case. -/
theorem foldCase_of_isC0OrSpace {char : Char} (strips : isC0OrSpace char = true) :
    foldCase char = char := by
  have ascii : char.toNat < 128 := (of_decide_eq_true strips).trans_lt (by decide)
  have all : ∀ code < 128, isC0OrSpace (Char.ofNat code) = true →
      foldCase (Char.ofNat code) = Char.ofNat code := by decide
  exact @of_ascii (fun char => isC0OrSpace char = true → foldCase char = char) all _ ascii strips

theorem foldable_of_foldCase {char : Char} (foldable : Foldable (foldCase char)) :
    Foldable char := by
  unfold foldCase at foldable
  split at foldable
  · rename_i kelvin
    exact Or.inr kelvin
  · unfold Char.toLower at foldable
    split at foldable
    · rename_i upper
      exact Or.inl (@ascii_of_le _ 'Z' upper.2 (by decide))
    · exact foldable

/-- The tables of a Python that knows no other cases and composes nothing. -/
def Unicode.ofFoldCase : Unicode where
  lower text := text.map foldCase
  nfkc text := text
  lower_eq _ _ := rfl
  foldable _ folded char member :=
    foldable_of_foldCase (folded (foldCase char) (List.mem_map_of_mem member))

/-! ## What is accepted -/

variable {unicode : Unicode} {url netloc host name : List Char} {result : SplitResult}

/-- Python leaves what a browser strips at the end. -/
theorem stripped_eq_clean (url : List Char) :
    ∃ tail, stripped url = clean url ++ tail ∧ ∀ char ∈ tail, isC0OrSpace char = true := by
  refine ⟨((url.dropWhile isC0OrSpace).rtakeWhile isC0OrSpace).filter (!isTabOrNewline ·), ?_, ?_⟩
  · rw [clean, ← List.filter_append, List.rdropWhile_append_rtakeWhile, stripped]
  · intro char member
    exact List.mem_rtakeWhile_imp (List.mem_of_mem_filter member)

theorem colon_mem_of_isIpv6 (address : isIpv6 host = true) : ':' ∈ host := by
  by_contra absent
  have single : ((host.takeWhile (· ≠ '%')).splitOn ':').length = 1 := by
    rw [List.splitOn_eq_singleton fun member => absent (List.takeWhile_subset _ member)]
    rfl
  simp only [isIpv6, Bool.and_eq_true, decide_eq_true_eq] at address
  have parts := address.1.2
  rw [single] at parts
  omega

/-- The host of an accepted URL that is the name of a host, up to case, is in no brackets. -/
theorem noBracket_of_urlsplit (split : urlsplit unicode url = .ok result)
    (folded : (hostInfo result.netloc).map foldCase = name) (noColon : ':' ∉ name)
    (first : name.head? ≠ some 'v') : '[' ∉ result.netloc ∧ ']' ∉ result.netloc := by
  have notAddress : isBracketedHost (hostInfo result.netloc) = false := by
    unfold isBracketedHost
    split
    · rename_i version
      refine absurd ?_ first
      rw [← folded, List.head?_map, version]
      rfl
    · refine Bool.eq_false_iff.mpr fun address => noColon ?_
      rw [← folded]
      exact List.mem_map.mpr ⟨':', colon_mem_of_isIpv6 address, by decide⟩
  unfold urlsplit at split
  dsimp only at split
  split at split
  · cases split
  · rename_i balanced
    split at split
    · cases split
    · rename_i unbracketed
      split at split
      · cases split
        have bracketed : isBracketedNetloc (splitNetloc (splitScheme unicode (stripped url)).2) =
            false := by
          rw [isBracketedNetloc, notAddress, Bool.and_false]
        rw [bracketed, Bool.not_false, Bool.and_true, Bool.not_eq_true] at unbracketed
        rw [unbracketed, Bool.not_eq_true, bne_eq_false_iff_eq] at balanced
        exact ⟨by simpa using unbracketed, by simpa using balanced.symm⟩
      · cases split

/-- A host name that is in lower case the name of a host is that name up to case. -/
theorem folded_of_hostname (found : result.hostname unicode = some host)
    (same : unicode.lower host = name) (plain : ∀ char ∈ name, Foldable char)
    (noPercent : '%' ∉ name) :
    (∀ char ∈ hostInfo result.netloc, Foldable char) ∧
      (hostInfo result.netloc).map foldCase = name := by
  have foldable := unicode.foldable host (by rw [same]; exact plain)
  rw [unicode.lower_eq host foldable] at same
  unfold SplitResult.hostname at found
  split at found
  · cases found
  · generalize hostInfo result.netloc = info at found ⊢
    have parts := Option.some.inj found
    have absent : '%' ∉ info := by
      intro present
      rw [← List.takeWhile_append_dropWhile (p := fun char => char ≠ '%') (l := info),
        List.mem_append] at present
      refine noPercent ?_
      rw [← same, ← parts]
      refine List.mem_map.mpr ⟨'%', List.mem_append_right _ (present.resolve_left ?_), by decide⟩
      intro early
      exact absurd (List.mem_takeWhile_imp early) (by decide)
    have apart : ∀ char ∈ info, decide (char ≠ '%') = true := fun char member =>
      decide_eq_true fun equal => absent (equal ▸ member)
    rw [List.takeWhile_eq_self_iff.mpr apart, List.dropWhile_eq_nil_iff.mpr apart,
      List.append_nil] at parts
    have plainInfo := unicode.foldable info (by rw [parts]; exact foldable)
    rw [unicode.lower_eq info plainInfo] at parts
    refine ⟨plainInfo, ?_⟩
    rw [← same, ← parts, List.map_map]
    exact List.map_congr_left fun char member => (foldCase_foldCase (plainInfo char member)).symm

theorem ascii_of_isSchemeChar {char : Char} (allowed : isSchemeChar char = true) :
    char.toNat < 128 := by
  simp only [isSchemeChar, Bool.or_eq_true, beq_iff_eq] at allowed
  rcases allowed with ((alphanumeric | rfl) | rfl) | rfl
  · rcases Bool.or_eq_true_iff.mp alphanumeric with letter | digit
    · rcases Bool.or_eq_true_iff.mp letter with upper | lower
      · exact @ascii_of_le _ 'Z' (of_decide_eq_true upper).2 (by decide)
      · exact @ascii_of_le _ 'z' (of_decide_eq_true (Bool.and_eq_true_iff.mp lower).2) (by decide)
    · exact @ascii_of_le _ '9' (of_decide_eq_true (Bool.and_eq_true_iff.mp digit).2) (by decide)
  all_goals decide

theorem isC0OrSpace_of_isSchemeChar {char : Char} (allowed : isSchemeChar char = true) :
    isC0OrSpace char = false := by
  have all : ∀ code < 128, isSchemeChar (Char.ofNat code) = true →
      isC0OrSpace (Char.ofNat code) = false := by decide
  exact @of_ascii (fun char => isSchemeChar char = true → isC0OrSpace char = false) all _
    (ascii_of_isSchemeChar allowed) allowed

/-- The parts of a URL that is split. -/
theorem result_of_urlsplit (split : urlsplit unicode url = .ok result) :
    result = ⟨(splitScheme unicode (stripped url)).1,
      splitNetloc (splitScheme unicode (stripped url)).2⟩ := by
  unfold urlsplit at split
  dsimp only at split
  split at split
  · cases split
  · split at split
    · cases split
    · split at split
      · exact (Except.ok.inj split).symm
      · cases split

/-- A URL with a host whose scheme is `https`. -/
theorem split_https (split : urlsplit unicode url = .ok result)
    (https : unicode.lower result.scheme = "https".toList) (hosted : hostInfo result.netloc ≠ []) :
    ∃ scheme rest, stripped url = scheme ++ ':' :: '/' :: '/' :: rest ∧
      scheme.head?.any Char.isAlpha = true ∧ scheme.all isSchemeChar = true ∧
      scheme.map Char.toLower = "https".toList ∧
      result.netloc = rest.takeWhile (· ∉ ['/', '?', '#']) := by
  rw [result_of_urlsplit split] at https hosted ⊢
  unfold splitScheme at https hosted ⊢
  generalize stripped url = text at https hosted ⊢
  split at https
  · rename_i given
    obtain ⟨colon, letter, chars⟩ := given
    rw [if_pos ⟨colon, letter, chars⟩] at hosted ⊢
    obtain ⟨scheme, after, rfl, first⟩ := List.eq_append_cons_of_mem colon
    have front : (scheme ++ ':' :: after).takeWhile (· ≠ ':') = scheme :=
      (parts_append first after).1
    have back : ((scheme ++ ':' :: after).dropWhile (· ≠ ':')).tail = after :=
      (parts_append first after).2
    rw [front] at letter chars
    simp only [front, back] at https hosted ⊢
    have ascii : ∀ char ∈ scheme, char.toNat < 128 := fun char member =>
      ascii_of_isSchemeChar (List.all_eq_true.mp chars char member)
    have lower : scheme.map foldCase = scheme.map Char.toLower := by
      refine List.map_congr_left fun char member => if_neg ?_
      rintro rfl
      exact absurd (ascii _ member) (by decide)
    have twice : (scheme.map foldCase).map foldCase = scheme.map foldCase := by
      rw [List.map_map]
      exact List.map_congr_left fun char member => foldCase_foldCase (Or.inl (ascii char member))
    have folded : ∀ char ∈ scheme.map foldCase, Foldable char := by
      intro char member
      obtain ⟨before, held, rfl⟩ := List.mem_map.mp member
      exact Or.inl (foldCase_ascii (Or.inl (ascii before held)))
    rw [unicode.lower_eq scheme fun char member => Or.inl (ascii char member),
      unicode.lower_eq _ folded, twice, lower] at https
    unfold splitNetloc at hosted ⊢
    split at hosted
    · rename_i slashes
      obtain ⟨rest, rfl⟩ := List.isPrefixOf_iff_prefix.mp slashes
      exact ⟨scheme, rest, rfl, letter, chars, https, if_pos slashes⟩
    · exact absurd rfl hosted
  · rw [unicode.lower_eq [] fun char member => absurd member List.not_mem_nil] at https
    cases https

end UrlSplit
