import Panakoes.Foundation.UrlSplit

/-! # The return URL of the Customer Portal

`_is_allowed_return_url` looks at a URL as Python splits it, and a browser that is sent to the URL
reads it in its own way. The two agree on the host as long as no backslash comes before an at sign,
and Python does not look at the port.
-/

namespace Panakoes.Billing

open WebUrl UrlSplit

/-- `_ALLOWED_RETURN_URL_ORIGINS`. -/
def allowedReturnUrlOrigins : List String :=
  ["https://dmaopcm3hnxog.cloudfront.net", "https://panakoes.com"]

/-- `_is_allowed_return_url`. -/
def isAllowedReturnUrl (unicode : Unicode) (returnUrl : String) : Except PyError Bool :=
  (urlsplit unicode returnUrl.toList).map fun parsed =>
    if unicode.lower parsed.scheme ≠ "https".toList then false
    else
      match parsed.hostname unicode with
      | none => false
      | some hostname =>
          decide (String.ofList ("https://".toList ++ unicode.lower hostname) ∈
            allowedReturnUrlOrigins)

/-- The hosts of the origins. -/
def allowedHosts : List (List Char) :=
  ["dmaopcm3hnxog.cloudfront.net".toList, "panakoes.com".toList]

/-- A browser that is sent to the URL comes to an allowed host, on the default port. -/
def ReturnsHome (parser : HostParser) (returnUrl : String) : Prop :=
  ∃ host ∈ allowedHosts, httpsOrigin parser.parse returnUrl.toList = some ⟨host, none⟩

/-- The authority of the URL, without backslashes at its start. -/
def writtenAuthority (url : List Char) : List Char :=
  (((clean url).drop 8).takeWhile (· ∉ ['/', '?', '#'])).dropWhile (· = '\\')

/-- The host and port that come before another backslash, and after the last at sign there. -/
def seenAuthority (url : List Char) : List Char :=
  afterAt ((writtenAuthority url).takeWhile (· ≠ '\\'))

/-- The port is the default, and what comes before a backslash is of an allowed host. -/
structure Unambiguous (parser : HostParser) (url : List Char) : Prop where
  port : DefaultPort (portText (seenAuthority url))
  host : '\\' ∈ writtenAuthority url → hostText (seenAuthority url) ≠ [] ∧
    ∃ host ∈ allowedHosts, parser.parse (hostText (seenAuthority url)) = some host

variable {unicode : Unicode} {parser : HostParser} {returnUrl : String} {name text tail : List Char}

/-! ## Allowed hosts -/

theorem mem_allowedHosts_iff (host : List Char) :
    String.ofList ("https://".toList ++ host) ∈ allowedReturnUrlOrigins ↔ host ∈ allowedHosts := by
  have origins : allowedReturnUrlOrigins =
      allowedHosts.map fun host => String.ofList ("https://".toList ++ host) := by decide
  rw [origins]
  refine List.mem_map_of_injective fun first second same => ?_
  have texts := congrArg String.toList same
  simpa using texts

/-- The names are plain, and have none of the characters that parsers look for. -/
theorem allowedHosts_plain (member : name ∈ allowedHosts) :
    PlainDomain name ∧ name ≠ [] ∧ name.head? ≠ some 'v' ∧ ':' ∉ name ∧ '%' ∉ name ∧ '\\' ∉ name ∧
      '@' ∉ name ∧ (name.all fun char => !isC0OrSpace char && char.toNat < 128) = true := by
  have all : ∀ name ∈ allowedHosts,
      PlainDomain name ∧ name ≠ [] ∧ name.head? ≠ some 'v' ∧ ':' ∉ name ∧ '%' ∉ name ∧
        '\\' ∉ name ∧ '@' ∉ name ∧
        (name.all fun char => !isC0OrSpace char && char.toNat < 128) = true := by
    decide
  exact all name member

/-- What the check looks at when it accepts a URL. -/
theorem accepted_parts (accepted : isAllowedReturnUrl unicode returnUrl = .ok true) :
    ∃ scheme rest, stripped returnUrl.toList = scheme ++ ':' :: '/' :: '/' :: rest ∧
      scheme.head?.any Char.isAlpha = true ∧ scheme.all isSchemeChar = true ∧
      scheme.map Char.toLower = "https".toList ∧
      let netloc := rest.takeWhile (· ∉ ['/', '?', '#'])
      '[' ∉ netloc ∧ ']' ∉ netloc ∧
        (∀ char ∈ hostText (afterAt netloc), Foldable char) ∧
        (hostText (afterAt netloc)).map foldCase ∈ allowedHosts := by
  obtain ⟨parsed, split, checked⟩ := Except.map_eq_ok.mp accepted
  split at checked
  · cases checked
  · rename_i https
    rw [not_not] at https
    split at checked
    · cases checked
    · rename_i hostname found
      have member := (mem_allowedHosts_iff _).mp (of_decide_eq_true checked)
      obtain ⟨-, nonempty, first, noColon, noPercent, -, -, ascii⟩ := allowedHosts_plain member
      obtain ⟨foldable, folded⟩ := folded_of_hostname found rfl (fun char held => by
        have plain := List.all_eq_true.mp ascii char held
        rw [Bool.and_eq_true, decide_eq_true_eq] at plain
        exact Or.inl plain.2) noPercent
      obtain ⟨opening, closing⟩ := noBracket_of_urlsplit split folded noColon first
      have info : hostInfo parsed.netloc = hostText (afterAt parsed.netloc) :=
        if_neg fun inside => opening ((afterAt_suffix _).subset inside)
      rw [info] at foldable folded
      have hosted : hostInfo parsed.netloc ≠ [] := by
        intro empty
        rw [info] at empty
        rw [empty] at folded
        exact nonempty folded.symm
      obtain ⟨scheme, rest, whole, letter, chars, lower, netloc⟩ := split_https split https hosted
      rw [← folded] at member
      rw [netloc] at opening closing foldable member
      exact ⟨scheme, rest, whole, letter, chars, lower, opening, closing, foldable, member⟩

/-! ## The authority that a browser sees -/

/-- What begins with a text that is not stripped keeps it. -/
theorem exists_append_of_stripped {rest front : List Char}
    (kept : ∀ char ∈ front, isC0OrSpace char = false)
    (strips : ∀ char ∈ tail, isC0OrSpace char = true) (same : text ++ tail = front ++ rest) :
    ∃ later, text = front ++ later ∧ rest = later ++ tail := by
  induction front generalizing text with
  | nil => exact ⟨text, rfl, same.symm⟩
  | cons char front ih =>
      obtain ⟨here, later⟩ := List.forall_mem_cons.mp kept
      cases text with
      | nil =>
          rw [List.nil_append] at same
          have stripped := strips char (by rw [same]; exact List.mem_cons_self)
          rw [here] at stripped
          cases stripped
      | cons first text =>
          rw [List.cons_append, List.cons_append, List.cons.injEq] at same
          obtain ⟨rfl, same⟩ := same
          obtain ⟨text, rfl, rest⟩ := ih later same
          exact ⟨text, rfl, rest⟩

/-- What a browser strips at the end of a URL is no part of an allowed host. -/
theorem hostText_of_stripped (strips : ∀ char ∈ tail, isC0OrSpace char = true)
    (allowed : (hostText (text ++ tail)).map foldCase ∈ allowedHosts) :
    hostText (text ++ tail) = hostText text := by
  obtain ⟨-, -, -, -, -, -, -, plain⟩ := allowedHosts_plain allowed
  by_cases colon : ':' ∈ text
  · obtain ⟨before, after, rfl, first⟩ := List.eq_append_cons_of_mem colon
    rw [List.append_assoc, List.cons_append, (parts_append first _).1, (parts_append first _).1]
  · have noColon : ':' ∉ tail := fun member => absurd (strips ':' member) (by decide)
    have whole : ':' ∉ text ++ tail := by simp [colon, noColon]
    rw [(parts_of_not_mem whole).1] at plain ⊢
    rw [(parts_of_not_mem colon).1]
    have empty : tail = [] := by
      refine List.eq_nil_iff_forall_not_mem.mpr fun char member => ?_
      have kept := List.all_eq_true.mp plain (foldCase char)
        (List.mem_map_of_mem (List.mem_append_right _ member))
      rw [foldCase_of_isC0OrSpace (strips char member), strips char member] at kept
      cases kept
    rw [empty, List.append_nil]

/-- What a URL that is accepted looks like to a browser. -/
theorem accepted_seen (accepted : isAllowedReturnUrl unicode returnUrl = .ok true) :
    ∃ scheme rest authority, clean returnUrl.toList = scheme ++ ':' :: '/' :: '/' :: rest ∧
      scheme.head?.any Char.isAlpha = true ∧ scheme.all isSchemeChar = true ∧
      scheme.map Char.toLower = "https".toList ∧
      authority = rest.takeWhile (· ∉ ['/', '?', '#']) ∧ '[' ∉ authority ∧ ']' ∉ authority ∧
        (∀ char ∈ hostText (afterAt authority), Foldable char) ∧
        (hostText (afterAt authority)).map foldCase ∈ allowedHosts := by
  obtain ⟨scheme, rest, whole, letter, chars, lower, opening, closing, foldable, allowed⟩ :=
    accepted_parts accepted
  obtain ⟨tail, split, strips⟩ := stripped_eq_clean returnUrl.toList
  have kept : ∀ char ∈ scheme ++ [':', '/', '/'], isC0OrSpace char = false := by
    intro char member
    rcases List.mem_append.mp member with inScheme | separator
    · exact isC0OrSpace_of_isSchemeChar (List.all_eq_true.mp chars char inScheme)
    · have all : [':', '/', '/'].all (!isC0OrSpace ·) = true := by decide
      simpa using List.all_eq_true.mp all char separator
  have same : clean returnUrl.toList ++ tail = scheme ++ [':', '/', '/'] ++ rest := by
    rw [← split, whole, List.append_assoc]
    rfl
  obtain ⟨later, cleaned, rfl⟩ := exists_append_of_stripped kept strips same
  have authority : ∃ more, (later ++ tail).takeWhile (· ∉ ['/', '?', '#']) =
      later.takeWhile (· ∉ ['/', '?', '#']) ++ more ∧ ∀ char ∈ more, isC0OrSpace char = true := by
    rw [List.takeWhile_append]
    split
    · rename_i all
      rw [(List.takeWhile_prefix _).eq_of_length all]
      exact ⟨_, rfl, fun char member => strips char (List.takeWhile_subset _ member)⟩
    · exact ⟨[], (List.append_nil _).symm, fun char member => absurd member List.not_mem_nil⟩
  obtain ⟨more, netloc, strips⟩ := authority
  have noAt : '@' ∉ more := fun member => absurd (strips '@' member) (by decide)
  rw [netloc] at opening closing foldable allowed
  rw [afterAt_append_of_not_mem _ noAt] at foldable allowed
  have same := hostText_of_stripped strips allowed
  rw [same] at foldable allowed
  refine ⟨scheme, later, _, ?_, letter, chars, lower, rfl, ?_, ?_, foldable, allowed⟩
  · rw [cleaned, List.append_assoc]
    rfl
  · exact fun member => opening (List.mem_append_left _ member)
  · exact fun member => closing (List.mem_append_left _ member)

/-- The host that the check accepts has neither backslashes nor at signs. -/
theorem not_mem_of_folded {char : Char} (allowed : text.map foldCase ∈ allowedHosts)
    (special : char = '\\' ∨ char = '@') : char ∉ text := by
  obtain ⟨-, -, -, -, -, noBackslash, noAt, -⟩ := allowedHosts_plain allowed
  intro member
  have folded : foldCase char ∈ text.map foldCase := List.mem_map_of_mem member
  rcases special with rfl | rfl
  · exact noBackslash folded
  · exact noAt folded

/-- Backslashes at the start of an authority are before its last at sign, if the host is allowed. -/
theorem afterAt_dropWhile (allowed : (hostText (afterAt text)).map foldCase ∈ allowedHosts) :
    afterAt (text.dropWhile (· = '\\')) = afterAt text := by
  have split := List.takeWhile_append_dropWhile (p := fun char => char = '\\') (l := text)
  by_cases credentials : '@' ∈ text.dropWhile (· = '\\')
  · calc
      afterAt (text.dropWhile (· = '\\')) =
          afterAt (text.takeWhile (· = '\\') ++ text.dropWhile (· = '\\')) :=
        (afterAt_append_of_mem _ credentials).symm
      _ = afterAt text := by rw [split]
  · cases text with
    | nil => rfl
    | cons first rest =>
        by_cases backslash : first = '\\'
        · have noAt : '@' ∉ first :: rest := by
            rw [← split, List.mem_append, not_or]
            refine ⟨fun early => ?_, credentials⟩
            exact absurd (List.mem_takeWhile_imp early) (by decide)
          rw [afterAt_of_not_mem noAt, hostText, List.takeWhile_cons_of_pos (by
            rw [backslash]
            decide)] at allowed
          exact absurd (backslash ▸ List.mem_cons_self) (not_mem_of_folded allowed (Or.inl rfl))
        · rw [List.dropWhile_cons_of_neg (by simpa using backslash)]

/-- What is left after a part without delimiters begins with one. -/
theorem ended_dropWhile {p : Char → Bool} {rest : List Char}
    (delimits : ∀ char, p char = false → isDelimiter char = true) (ended : Ended rest) :
    Ended (text.dropWhile p ++ rest) := by
  induction text with
  | nil => exact ended
  | cons char text ih =>
      rw [List.dropWhile_cons]
      split
      · exact ih
      · rename_i stops
        intro first same
        cases same
        exact delimits char (by simpa using stops)

/-- A text between backslashes and a delimiter, whose first character ends the slashes. -/
theorem dropWhile_isSlash {front rest : List Char} (backslashes : ∀ char ∈ front, char = '\\')
    (nonempty : text ≠ []) (noBackslash : text.head? ≠ some '\\') (noSlash : '/' ∉ text) :
    ('/' :: '/' :: (front ++ (text ++ rest))).dropWhile isSlash = text ++ rest := by
  have slashes : ∀ char ∈ front, isSlash char = true := by
    intro char member
    rw [backslashes char member]
    rfl
  cases text with
  | nil => exact absurd rfl nonempty
  | cons first more =>
      have apart : ¬ isSlash first = true := by
        rw [isSlash, Bool.or_eq_true, beq_iff_eq, beq_iff_eq, not_or]
        refine ⟨fun slash => noSlash ?_, fun backslash => noBackslash ?_⟩
        · exact slash ▸ List.mem_cons_self
        · exact congrArg some backslash
      calc
        ('/' :: '/' :: (front ++ (first :: more ++ rest))).dropWhile isSlash =
            (front ++ (first :: more ++ rest)).dropWhile isSlash := rfl
        _ = (first :: more ++ rest).dropWhile isSlash := List.dropWhile_append_of_pos slashes
        _ = first :: more ++ rest := List.dropWhile_cons_of_neg apart

/-- The end of an authority begins with a delimiter. -/
theorem ended_netloc (rest : List Char) : Ended (rest.dropWhile (· ∉ ['/', '?', '#'])) := by
  have delimits : ∀ char : Char, decide (char ∉ ['/', '?', '#']) = false →
      isDelimiter char = true := by
    intro char stops
    have special : char ∈ ['/', '?', '#'] := by
      simpa only [decide_eq_false_iff_not, not_not] using stops
    rw [isDelimiter_iff]
    rcases List.mem_cons.mp special with slash | later
    · exact Or.inl slash
    · exact Or.inr (Or.inr (by simpa using later))
  have nothing : Ended [] := fun char none => by cases none
  have ends := @ended_dropWhile rest _ [] delimits nothing
  rwa [List.append_nil] at ends

/-- **The origin of a URL that is accepted**, as a browser sees it. Before a backslash it is that of
another authority, and without one the host is the one that is checked. -/
theorem httpsOrigin_of_accepted (accepted : isAllowedReturnUrl unicode returnUrl = .ok true) :
    httpsOrigin parser.parse returnUrl.toList =
      originOf parser.parse (seenAuthority returnUrl.toList) ∧
    ('\\' ∉ writtenAuthority returnUrl.toList →
      (∀ char ∈ hostText (seenAuthority returnUrl.toList), Foldable char) ∧
        (hostText (seenAuthority returnUrl.toList)).map foldCase ∈ allowedHosts) := by
  obtain ⟨scheme, rest, authority, cleaned, letter, chars, lower, same, opening, closing, foldable,
    allowed⟩ := accepted_seen accepted
  have length : (scheme ++ [':', '/', '/']).length = 8 := by
    simpa using congrArg List.length lower
  have dropped : (clean returnUrl.toList).drop 8 = rest := by
    have split : clean returnUrl.toList = scheme ++ [':', '/', '/'] ++ rest := by
      rw [cleaned, List.append_assoc]
      rfl
    rw [split, List.drop_left' length]
  have written : writtenAuthority returnUrl.toList = authority.dropWhile (· = '\\') := by
    rw [writtenAuthority, dropped, same]
  have host := afterAt_dropWhile allowed
  rw [← host] at foldable allowed
  rw [seenAuthority, written]
  have undelimited : ∀ char ∈ authority, char ∉ ['/', '?', '#'] := by
    intro char member
    rw [same] at member
    have apart := List.mem_takeWhile_imp member
    simpa using apart
  have backslashes : ∀ char ∈ authority.takeWhile (· = '\\'), char = '\\' := by
    intro char member
    have equal := List.mem_takeWhile_imp member
    simpa using equal
  have noBackslash : (authority.dropWhile (· = '\\')).head? ≠ some '\\' := by
    intro first
    have kept := List.head?_dropWhile_not (fun char => decide (char = '\\')) authority
    rw [first] at kept
    exact absurd kept (by decide)
  have split : rest = authority.takeWhile (· = '\\') ++
      (authority.dropWhile (· = '\\') ++ rest.dropWhile (· ∉ ['/', '?', '#'])) := by
    rw [← List.append_assoc, List.takeWhile_append_dropWhile, same,
      List.takeWhile_append_dropWhile]
  have inside : authority.dropWhile (· = '\\') ⊆ authority := (List.dropWhile_suffix _).subset
  generalize authority.dropWhile (· = '\\') = text at *
  constructor
  · obtain ⟨-, nonempty, -⟩ := allowedHosts_plain allowed
    have some : text ≠ [] := by
      rintro rfl
      exact nonempty rfl
    have slashes : ('/' :: '/' :: rest).dropWhile isSlash =
        text.takeWhile (· ≠ '\\') ++
          (text.dropWhile (· ≠ '\\') ++ rest.dropWhile (· ∉ ['/', '?', '#'])) := by
      rw [← List.append_assoc, List.takeWhile_append_dropWhile]
      conv_lhs => rw [split]
      exact dropWhile_isSlash backslashes some noBackslash fun member =>
        undelimited '/' (inside member) List.mem_cons_self
    rw [httpsOrigin_eq cleaned letter chars lower, slashes]
    refine authorityState_eq ?_ ?_ ?_
    · intro char member
      have apart := undelimited char (inside (List.takeWhile_subset _ member))
      have other := List.mem_takeWhile_imp member
      rw [← Bool.not_eq_true, isDelimiter_iff]
      rintro (rfl | rfl | rfl | rfl)
      · exact apart (by decide)
      · exact absurd other (by decide)
      · exact apart (by decide)
      · exact apart (by decide)
    · intro char member
      have held := inside (List.takeWhile_subset _ member)
      exact ⟨fun bracket => opening (bracket ▸ held), fun bracket => closing (bracket ▸ held)⟩
    · refine ended_dropWhile (fun char stops => ?_) (ended_netloc rest)
      have backslash : char = '\\' := by simpa using stops
      rw [backslash]
      rfl
  · intro absent
    have whole : text.takeWhile (· ≠ '\\') = text :=
      List.takeWhile_eq_self_iff.mpr fun char member =>
        decide_eq_true fun backslash => absent (backslash ▸ member)
    rw [whole]
    exact ⟨foldable, allowed⟩

/-- **Where a URL that is accepted leads.** A browser comes to an allowed host on the default port
exactly if the port is the default and no other host is before a backslash. -/
theorem returnsHome_iff_unambiguous (unicode : Unicode) (parser : HostParser) (returnUrl : String)
    (accepted : isAllowedReturnUrl unicode returnUrl = .ok true) :
    ReturnsHome parser returnUrl ↔ Unambiguous parser returnUrl.toList := by
  obtain ⟨origin, checked⟩ := @httpsOrigin_of_accepted unicode parser returnUrl accepted
  unfold ReturnsHome
  rw [origin]
  constructor
  · rintro ⟨host, member, same⟩
    obtain ⟨nonempty, parsed, port⟩ := originOf_eq_some.mp same
    exact ⟨port, fun _ => ⟨nonempty, host, member, parsed⟩⟩
  · rintro ⟨port, hosted⟩
    by_cases backslash : '\\' ∈ writtenAuthority returnUrl.toList
    · obtain ⟨nonempty, host, member, parsed⟩ := hosted backslash
      exact ⟨host, member, originOf_eq_some.mpr ⟨nonempty, parsed, port⟩⟩
    · -- Without backslashes both see the same host.
      obtain ⟨foldable, allowed⟩ := checked backslash
      obtain ⟨plain, nonempty, -⟩ := allowedHosts_plain allowed
      have parsed := parser.parse_plain _ foldable plain
      refine ⟨_, allowed, originOf_eq_some.mpr ⟨?_, parsed, port⟩⟩
      intro empty
      rw [empty] at nonempty
      exact nonempty rfl

/-- The page that a user comes back to. -/
theorem returnsHome_account : isAllowedReturnUrl .ofFoldCase "https://panakoes.com/account" =
      .ok true ∧
    ReturnsHome .ofPlain "https://panakoes.com/account" := by
  have accepted : isAllowedReturnUrl .ofFoldCase "https://panakoes.com/account" = .ok true := by
    decide +kernel
  have clear : Unambiguous .ofPlain "https://panakoes.com/account".toList :=
    ⟨by decide +kernel, fun backslash => absurd backslash (by decide +kernel)⟩
  exact ⟨accepted, (returnsHome_iff_unambiguous _ _ _ accepted).mpr clear⟩

/-- A backslash before an at sign leads to another host. -/
theorem not_returnsHome_of_accepted :
    ¬ ∀ (unicode : Unicode) (parser : HostParser) (returnUrl : String),
      isAllowedReturnUrl unicode returnUrl = .ok true → ReturnsHome parser returnUrl := by
  intro always
  obtain ⟨host, member, origin⟩ := always .ofFoldCase .ofPlain "https://evil.com\\@panakoes.com/"
    (by decide +kernel)
  have elsewhere : httpsOrigin HostParser.ofPlain.parse "https://evil.com\\@panakoes.com/".toList =
      some ⟨"evil.com".toList, none⟩ := by
    decide +kernel
  rw [elsewhere] at origin
  cases origin
  exact absurd member (by decide)

/-- A port is not looked at. -/
example : isAllowedReturnUrl .ofFoldCase "https://panakoes.com:8443/" = .ok true ∧
    httpsOrigin HostParser.ofPlain.parse "https://panakoes.com:8443/".toList =
      some ⟨"panakoes.com".toList, some 8443⟩ := by
  decide +kernel

end Panakoes.Billing
