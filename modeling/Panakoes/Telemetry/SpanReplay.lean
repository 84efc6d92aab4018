import Panakoes.Telemetry.SpanRenaming

/-! # Spans that are given again

An event whose insertion fails has been given a span all the same, and is given another when its
file is taken again. The rows are then compared with those of the events as they first come, none
of which fails. They agree up to the names of the spans as long as an event that fails leaves the
trace context as it is, and finds the same span on top when it is stored.
-/

namespace Panakoes.Telemetry

open Transition

variable {ρ : Equiv.Perm String}

/-! ## Attempts -/

/-- An event of a file that is given a span: the span it draws, the span it finds on top, and
whether its insertion is executed. -/
structure Attempt where
  path : SpoolPath
  identity : EventIdentity
  drawn : String
  top : Option String
  executed : Bool
  deriving DecidableEq

/-- The key of the row. -/
abbrev Attempt.key (attempt : Attempt) : String := attempt.identity.dedupKey

/-- The trace context, and the link that each row stores. -/
structure Ledger where
  context : SpanContext
  rows : List (String × SpanLink)

/-- The event is given a span, and its row is stored if the insertion is executed and the key is
new. -/
def Ledger.take (ledger : Ledger) (attempt : Attempt) : Ledger :=
  let assigned := assignSpanForEvent ledger.context attempt.identity attempt.drawn
  ⟨assigned.1,
    if attempt.executed = true ∧ attempt.key ∉ ledger.rows.map Prod.fst then
      ledger.rows ++ [(attempt.key, assigned.2)]
    else ledger.rows⟩

/-- What attempts lead to. -/
def replay (attempts : List Attempt) : Ledger := attempts.foldl Ledger.take ⟨.empty, []⟩

/-- What attempts emit, each in view of those before it. -/
def along {β : Type} (emit : List Attempt → Attempt → List β) (attempts : List Attempt) : List β :=
  emitted (fun past attempt => some (past ++ [attempt])) emit [] attempts

/-- The failed attempt after which a file waits to be taken again. -/
def waiting (past : List Attempt) (path : SpoolPath) : Option Attempt :=
  (past.filter (·.path = path)).getLast?.filter (!·.executed)

/-- The attempts at which the events first come. -/
def firstAttempts : List Attempt → List Attempt :=
  along fun past attempt => if (waiting past attempt.path).isSome then [] else [attempt]

/-- The events as they first come, and none of them fails. -/
def undisturbed (attempts : List Attempt) : List Attempt :=
  (firstAttempts attempts).map fun attempt => { attempt with executed := true }

variable {past attempts : List Attempt} {attempt : Attempt} {ledger : Ledger}

@[simp] theorem replay_concat (past : List Attempt) (attempt : Attempt) :
    replay (past ++ [attempt]) = (replay past).take attempt := by
  rw [replay, List.foldl_append]
  rfl

theorem along_concat {β : Type} (emit : List Attempt → Attempt → List β) (past : List Attempt)
    (attempt : Attempt) :
    along emit (past ++ [attempt]) = along emit past ++ emit past attempt := by
  refine emitted_concat _ emit ?_
  induction past using List.reverseRecOn with
  | nil => rfl
  | append_singleton front last ih => exact (execute_concat_eq_some _).mpr ⟨front, ih, rfl⟩

theorem undisturbed_concat (past : List Attempt) (attempt : Attempt) :
    undisturbed (past ++ [attempt]) =
      undisturbed past ++
        if (waiting past attempt.path).isSome then [] else [{ attempt with executed := true }] := by
  rw [undisturbed, firstAttempts, along_concat, List.map_append, undisturbed, firstAttempts]
  split <;> rfl

theorem waiting_concat (past : List Attempt) (attempt : Attempt) (path : SpoolPath) :
    waiting (past ++ [attempt]) path =
      if attempt.path = path then (some attempt).filter (!·.executed) else waiting past path := by
  unfold waiting
  by_cases here : attempt.path = path
  · simp [here]
  · simp [here]

theorem mem_of_waiting {path : SpoolPath} (waits : waiting past path = some attempt) :
    attempt ∈ past ∧ attempt.path = path ∧ attempt.executed = false := by
  obtain ⟨last, failed⟩ := Option.filter_eq_some_iff.mp waits
  obtain ⟨member, here⟩ := List.mem_filter.mp (List.mem_of_getLast? last)
  exact ⟨member, of_decide_eq_true here, by simpa using failed⟩

/-- The row of a key after an attempt. -/
theorem lookup_take (ledger : Ledger) (attempt : Attempt) (key : String) :
    (ledger.take attempt).rows.lookup key =
      (ledger.rows.lookup key).or
        (if attempt.executed = true ∧ attempt.key = key then
          some (assignSpanForEvent ledger.context attempt.identity attempt.drawn).2 else none) := by
  have held : (ledger.rows.lookup key).isSome ↔ key ∈ ledger.rows.map Prod.fst := by
    rw [List.lookup_isSome_iff, List.mem_map]
    exact exists_congr fun row => and_congr_right fun _ => beq_iff_eq.trans eq_comm
  unfold Ledger.take
  dsimp only
  by_cases here : attempt.executed = true ∧ attempt.key = key
  · obtain ⟨executed, rfl⟩ := here
    rw [if_pos (c := attempt.executed = true ∧ attempt.key = attempt.key) ⟨executed, rfl⟩]
    by_cases known : attempt.key ∈ ledger.rows.map Prod.fst
    · obtain ⟨link, found⟩ := Option.isSome_iff_exists.mp (held.mpr known)
      rw [if_neg fun stored => stored.2 known, found, Option.some_or]
    · rw [if_pos ⟨executed, known⟩, List.lookup_append, List.lookup_cons_self]
  · rw [if_neg here, Option.or_none]
    split
    · rename_i stored
      have different : (key == attempt.key) = false :=
        beq_false_of_ne fun same => here ⟨stored.1, same.symm⟩
      rw [List.lookup_append, List.lookup_cons, different, List.lookup_nil, Option.or_none]
    · rfl

/-- The rows are those of the keys that have been inserted. -/
theorem isSome_lookup_replay (attempts : List Attempt) (key : String) :
    ((replay attempts).rows.lookup key).isSome ↔
      ∃ attempt ∈ attempts, attempt.executed = true ∧ attempt.key = key := by
  induction attempts using List.reverseRecOn with
  | nil => simp [replay]
  | append_singleton past attempt ih =>
      rw [replay_concat, lookup_take, Option.isSome_or, Bool.or_eq_true, ih]
      simp [or_and_right, exists_or]

/-! ## Failures that do no harm -/

/-- An insertion that fails is one of a quiet event, and an event that is stored after a failure of
its key is quiet, and finds the span on top that was there then. -/
structure Harmless (past : List Attempt) (context : SpanContext) (attempt : Attempt) : Prop where
  failed : attempt.executed = false → context.Quiet attempt.identity
  again : attempt.executed = true → ∀ earlier ∈ past, earlier.executed = false →
    earlier.key = attempt.key → context.Quiet attempt.identity ∧ attempt.top = earlier.top

/-- Attempts that do no harm: they draw new spans, and a file that waits keeps its event. -/
inductive Sound : List Attempt → Prop where
  | nil : Sound []
  | concat {past : List Attempt} {attempt : Attempt} (sound : Sound past)
      (found : attempt.top = (replay past).context.top attempt.identity.sessionId)
      (kept : ∀ earlier, waiting past attempt.path = some earlier →
        earlier.identity = attempt.identity)
      (new : attempt.drawn ∉ past.map Attempt.drawn)
      (harmless : Harmless past (replay past).context attempt) : Sound (past ++ [attempt])

/-- The attempt whose span stands for that of an executed one in the undisturbed rows: the first of
its key, if it is the one that is stored. -/
def standIn (past : List Attempt) (attempt : Attempt) : Attempt :=
  if ((replay past).rows.lookup attempt.key).isSome then attempt
  else (past.find? (·.key = attempt.key)).getD attempt

/-- The renaming, for the spans that the executed attempts draw. -/
def standIns : List Attempt → List (String × String) :=
  along fun past attempt =>
    if attempt.executed = true then [(attempt.drawn, (standIn past attempt).drawn)] else []

theorem standIns_concat (past : List Attempt) (attempt : Attempt) :
    standIns (past ++ [attempt]) = standIns past ++
      if attempt.executed = true then [(attempt.drawn, (standIn past attempt).drawn)] else [] :=
  along_concat _ past attempt

theorem Sound.nodup (sound : Sound attempts) : (attempts.map Attempt.drawn).Nodup := by
  induction sound with
  | nil => exact List.nodup_nil
  | concat sound found kept new harmless ih =>
      rw [List.map_append, List.map_singleton, ← List.concat_eq_append]
      exact ih.concat new

theorem mem_of_find?_key {key : String} (found : past.find? (·.key = key) = some attempt) :
    attempt ∈ past ∧ attempt.key = key :=
  ⟨List.mem_of_find?_eq_some found, by simpa using List.find?_some found⟩

/-- A row stays. -/
theorem isSome_lookup_concat {key : String}
    (held : ((replay past).rows.lookup key).isSome = true) (attempt : Attempt) :
    ((replay (past ++ [attempt])).rows.lookup key).isSome = true := by
  rw [replay_concat, lookup_take, Option.isSome_or, held, Bool.true_or]

/-- What stands for a span is drawn by an attempt whose key has a row. -/
theorem mem_standIns {pair : String × String} (member : pair ∈ standIns attempts) :
    pair.1 ∈ attempts.map Attempt.drawn ∧
      ∃ attempt ∈ attempts, pair.2 = attempt.drawn ∧
        ((replay attempts).rows.lookup attempt.key).isSome = true := by
  induction attempts using List.reverseRecOn with
  | nil => cases member
  | append_singleton past last ih =>
      rw [standIns_concat, List.mem_append] at member
      rcases member with earlier | now
      · obtain ⟨drawn, attempt, held, same, row⟩ := ih earlier
        exact ⟨by rw [List.map_append]; exact List.mem_append_left _ drawn, attempt,
          List.mem_append_left _ held, same, isSome_lookup_concat row last⟩
      · split at now
        · rename_i executed
          rw [List.mem_singleton.mp now]
          have row : ((replay (past ++ [last])).rows.lookup last.key).isSome = true :=
            (isSome_lookup_replay _ _).mpr ⟨last, by simp, executed, rfl⟩
          refine ⟨by simp, standIn past last, ?_, rfl, ?_⟩
          · unfold standIn
            split
            · simp
            · cases found : past.find? (·.key = last.key) with
              | none => simp
              | some first => exact List.mem_append_left _ (mem_of_find?_key found).1
          · unfold standIn
            split
            · exact row
            · cases found : past.find? (·.key = last.key) with
              | none => exact row
              | some first => rwa [Option.getD_some, (mem_of_find?_key found).2]
        · cases now

/-- Some renaming takes every span to the one that stands for it. -/
theorem Sound.exists_renaming (sound : Sound attempts) :
    ∃ ρ : Equiv.Perm String, ∀ pair ∈ standIns attempts, ρ pair.1 = pair.2 := by
  suffices distinct : ((standIns attempts).map Prod.fst).Nodup ∧
      ((standIns attempts).map Prod.snd).Nodup from
    Equiv.Perm.exists_of_nodup distinct.1 distinct.2
  induction sound with
  | nil => exact ⟨List.nodup_nil, List.nodup_nil⟩
  | @concat past attempt sound found kept new harmless ih =>
      rw [standIns_concat]
      split
      · rw [List.map_append, List.map_append, List.map_singleton, List.map_singleton,
          ← List.concat_eq_append, ← List.concat_eq_append]
        refine ⟨ih.1.concat fun member => ?_, ih.2.concat fun member => ?_⟩
        · obtain ⟨pair, held, same⟩ := List.mem_map.mp member
          have drawn : pair.1 = attempt.drawn := same
          exact new (drawn ▸ (mem_standIns held).1)
        · obtain ⟨pair, held, same⟩ := List.mem_map.mp member
          obtain ⟨earlier, inPast, drawn, row⟩ := (mem_standIns held).2
          have again : earlier.drawn = (standIn past attempt).drawn := drawn.symm.trans same
          have mine : earlier.drawn ≠ attempt.drawn := fun equal =>
            new (equal ▸ List.mem_map_of_mem inPast)
          unfold standIn at again
          split at again
          · exact mine again
          · rename_i unstored
            cases first : past.find? (·.key = attempt.key) with
            | none =>
                rw [first] at again
                exact mine again
            | some other =>
                rw [first] at again
                obtain ⟨held, sameKey⟩ := mem_of_find?_key first
                rw [List.inj_on_of_nodup_map sound.nodup inPast held again, sameKey] at row
                exact unstored row
      · rw [List.append_nil]
        exact ih

/-! ## The undisturbed rows -/

/-- What attempts lead to, beside what the undisturbed events lead to. -/
structure Mirrors (ρ : Equiv.Perm String) (attempts : List Attempt) : Prop where
  context : Renames ρ (replay attempts).context (replay (undisturbed attempts)).context
  stored : ∀ key link, (replay attempts).rows.lookup key = some link →
    (replay (undisturbed attempts)).rows.lookup key = some (link.rename ρ)
  delayed : ∀ key attempt, (replay attempts).rows.lookup key = none →
    attempts.find? (·.key = key) = some attempt →
    (replay (undisturbed attempts)).rows.lookup key =
      some ⟨attempt.drawn, attempt.top.map ρ⟩
  known : ∀ key, ((replay (undisturbed attempts)).rows.lookup key).isSome ↔
    ∃ attempt ∈ attempts, attempt.key = key

/-- The undisturbed row of a key after an attempt. -/
theorem lookup_undisturbed_concat (past : List Attempt) (attempt : Attempt) (key : String) :
    (replay (undisturbed (past ++ [attempt]))).rows.lookup key =
      ((replay (undisturbed past)).rows.lookup key).or
        (if (waiting past attempt.path).isSome = false ∧ attempt.key = key then
          some (assignSpanForEvent (replay (undisturbed past)).context attempt.identity
            attempt.drawn).2 else none) := by
  rw [undisturbed_concat]
  cases waits : (waiting past attempt.path).isSome with
  | true => simp
  | false =>
      rw [if_neg Bool.false_ne_true, replay_concat, lookup_take]
      simp [Attempt.key]

section Step

variable (found : attempt.top = (replay past).context.top attempt.identity.sessionId)
  (kept : ∀ earlier, waiting past attempt.path = some earlier →
    earlier.identity = attempt.identity)
  (harmless : Harmless past (replay past).context attempt)

include harmless in
/-- An event that is not quiet is stored, and no event of its key has failed. -/
theorem Harmless.loud (loud : ¬ (replay past).context.Quiet attempt.identity) :
    attempt.executed = true ∧
      ∀ earlier ∈ past, earlier.key = attempt.key → earlier.executed = true := by
  have executed : attempt.executed = true := by
    by_contra failed
    exact loud (harmless.failed (Bool.eq_false_iff.mpr failed))
  refine ⟨executed, fun earlier member same => ?_⟩
  by_contra failed
  exact loud (harmless.again executed earlier member (Bool.eq_false_iff.mpr failed) same).1

include harmless in
/-- The span of an event that is not quiet stands for itself. -/
theorem standIn_of_loud (loud : ¬ (replay past).context.Quiet attempt.identity) :
    standIn past attempt = attempt := by
  unfold standIn
  split
  · rfl
  · rename_i unstored
    cases first : past.find? (·.key = attempt.key) with
    | none => rfl
    | some earlier =>
        obtain ⟨member, same⟩ := mem_of_find?_key first
        exact absurd ((isSome_lookup_replay past attempt.key).mpr
          ⟨earlier, member, (harmless.loud loud).2 earlier member same, same⟩) unstored

include kept in
/-- A file that waits is not new. -/
theorem exists_of_waits (waits : (waiting past attempt.path).isSome = true) :
    ∃ earlier ∈ past, earlier.executed = false ∧ earlier.key = attempt.key := by
  obtain ⟨earlier, last⟩ := Option.isSome_iff_exists.mp waits
  obtain ⟨member, -, failed⟩ := mem_of_waiting last
  exact ⟨earlier, member, failed, congrArg EventIdentity.dedupKey (kept earlier last)⟩

include kept harmless in
theorem Mirrors.context_concat (mirrors : Mirrors ρ past)
    (renamed : attempt.executed = true → ρ attempt.drawn = (standIn past attempt).drawn) :
    Renames ρ (replay (past ++ [attempt])).context
      (replay (undisturbed (past ++ [attempt]))).context := by
  rw [replay_concat, undisturbed_concat]
  by_cases quiet : (replay past).context.Quiet attempt.identity
  · refine Renames.before_quiet ?_ quiet _
    split
    · rw [List.append_nil]
      exact mirrors.context
    · rw [replay_concat]
      exact mirrors.context.after_quiet (quiet.renamed mirrors.context) _
  · obtain ⟨executed, stored⟩ := harmless.loud quiet
    rw [if_neg fun waits => ?_, replay_concat]
    · have drawn : ρ attempt.drawn = attempt.drawn := by
        rw [renamed executed, standIn_of_loud harmless quiet]
      have next := (mirrors.context.assign attempt.identity attempt.drawn).1
      rw [drawn] at next
      exact next
    · obtain ⟨earlier, member, failed, same⟩ := exists_of_waits kept waits
      exact absurd (stored earlier member same) (by simp [failed])

include kept in
/-- Every key that comes has an undisturbed row. -/
theorem Mirrors.known_concat (mirrors : Mirrors ρ past) (key : String) :
    ((replay (undisturbed (past ++ [attempt]))).rows.lookup key).isSome ↔
      ∃ earlier ∈ past ++ [attempt], earlier.key = key := by
  have split : (∃ earlier ∈ past ++ [attempt], earlier.key = key) ↔
      (∃ earlier ∈ past, earlier.key = key) ∨ attempt.key = key := by
    simp [or_and_right, exists_or]
  rw [lookup_undisturbed_concat, Option.isSome_or, Bool.or_eq_true, mirrors.known, split]
  refine or_congr_right' fun new => ?_
  have first : attempt.key = key → (waiting past attempt.path).isSome = false := by
    rintro rfl
    refine Bool.eq_false_iff.mpr fun waits => ?_
    obtain ⟨earlier, member, -, same⟩ := exists_of_waits kept waits
    exact new ⟨earlier, member, same⟩
  by_cases here : attempt.key = key
  · rw [if_pos ⟨first here, here⟩, Option.isSome_some]
    exact iff_of_true rfl here
  · rw [if_neg fun both => here both.2, Option.isSome_none]
    exact iff_of_false Bool.false_ne_true here

include kept in
/-- The first event of its key is not one that comes again. -/
theorem first_of_find? (first : past.find? (·.key = attempt.key) = none) :
    (waiting past attempt.path).isSome = false := by
  refine Bool.eq_false_iff.mpr fun waits => ?_
  obtain ⟨earlier, member, -, same⟩ := exists_of_waits kept waits
  simpa [same] using List.find?_eq_none.mp first earlier member

/-- No undisturbed row has a key that has not come. -/
theorem Mirrors.lookup_of_find? (mirrors : Mirrors ρ past) {key : String}
    (first : past.find? (·.key = key) = none) :
    (replay (undisturbed past)).rows.lookup key = none := by
  rw [← Option.not_isSome_iff_eq_none, mirrors.known]
  intro ⟨earlier, member, same⟩
  simpa [same] using List.find?_eq_none.mp first earlier member

include kept harmless found in
/-- A row that is stored late has the link that the event would have had. -/
theorem Mirrors.stored_concat (mirrors : Mirrors ρ past)
    (renamed : attempt.executed = true → ρ attempt.drawn = (standIn past attempt).drawn)
    (key : String) (link : SpanLink)
    (held : (replay (past ++ [attempt])).rows.lookup key = some link) :
    (replay (undisturbed (past ++ [attempt]))).rows.lookup key = some (link.rename ρ) := by
  rw [replay_concat, lookup_take] at held
  rw [lookup_undisturbed_concat]
  cases before : (replay past).rows.lookup key with
  | some stored =>
      rw [before, Option.some_or] at held
      cases held
      rw [mirrors.stored key _ before, Option.some_or]
  | none =>
      rw [before, Option.none_or] at held
      obtain ⟨⟨executed, rfl⟩, same⟩ := Option.ite_none_right_eq_some.mp held
      cases same
      have span := renamed executed
      rw [standIn, before, if_neg (by simp)] at span
      cases first : past.find? (·.key = attempt.key) with
      | some earlier =>
          -- the key has come before, and its row is late
          rw [first, Option.getD_some] at span
          obtain ⟨member, same⟩ := mem_of_find?_key first
          have failed : earlier.executed = false := by
            refine Bool.eq_false_iff.mpr fun stored => ?_
            have row := (isSome_lookup_replay past attempt.key).mpr ⟨earlier, member, stored, same⟩
            rw [before] at row
            cases row
          obtain ⟨quiet, top⟩ := harmless.again executed earlier member failed same
          rw [mirrors.delayed _ _ before first, Option.some_or, quiet.link, SpanLink.rename, span,
            ← found, top]
      | none =>
          rw [first, Option.getD_none] at span
          have assigned := (mirrors.context.assign attempt.identity attempt.drawn).2
          rw [span] at assigned
          rw [mirrors.lookup_of_find? first, Option.none_or,
            if_pos ⟨first_of_find? kept first, rfl⟩, assigned]

include kept harmless found in
/-- The undisturbed row of an event that has failed. -/
theorem Mirrors.delayed_concat (mirrors : Mirrors ρ past) (key : String) (earliest : Attempt)
    (late : (replay (past ++ [attempt])).rows.lookup key = none)
    (first : (past ++ [attempt]).find? (·.key = key) = some earliest) :
    (replay (undisturbed (past ++ [attempt]))).rows.lookup key =
      some ⟨earliest.drawn, earliest.top.map ρ⟩ := by
  rw [replay_concat, lookup_take, Option.or_eq_none_iff] at late
  rw [lookup_undisturbed_concat]
  rw [List.find?_append] at first
  cases before : past.find? (·.key = key) with
  | some earlier =>
      rw [before, Option.some_or] at first
      cases first
      rw [mirrors.delayed key _ late.1 before, Option.some_or]
  | none =>
      rw [before, Option.none_or] at first
      obtain ⟨member, rfl⟩ := mem_of_find?_key first
      cases List.mem_singleton.mp member
      have failed : attempt.executed = false := by
        refine Bool.eq_false_iff.mpr fun executed => ?_
        rw [if_pos ⟨executed, rfl⟩] at late
        cases late.2
      have quiet := (harmless.failed failed).renamed mirrors.context
      rw [mirrors.lookup_of_find? before, Option.none_or,
        if_pos ⟨first_of_find? kept before, rfl⟩, quiet.link, mirrors.context.top, ← found]

end Step

/-- **Attempts that do no harm lead to what the undisturbed events lead to**, up to the names of the
spans and to the rows that are still missing. -/
theorem Sound.mirrors (sound : Sound attempts)
    (renamed : ∀ pair ∈ standIns attempts, ρ pair.1 = pair.2) : Mirrors ρ attempts := by
  induction sound with
  | nil =>
      refine ⟨.empty, ?_, ?_, ?_⟩
      · intro key link held
        cases held
      · intro key attempt late first
        cases first
      · intro key
        exact iff_of_false Bool.false_ne_true (by simp)
  | @concat past attempt sound found kept new harmless ih =>
      rw [standIns_concat] at renamed
      have mirrors := ih fun pair member => renamed pair (List.mem_append_left _ member)
      have last : attempt.executed = true → ρ attempt.drawn = (standIn past attempt).drawn := by
        intro executed
        rw [if_pos executed] at renamed
        exact renamed _ (List.mem_append_right _ List.mem_cons_self)
      exact ⟨mirrors.context_concat kept harmless last,
        mirrors.stored_concat found kept harmless last,
        mirrors.delayed_concat found kept harmless, mirrors.known_concat kept⟩

/-! ## Another choice of spans -/

/-- Attempts at the same events that draw renamed spans lead to the renamed rows. -/
theorem replay_renamed {others : List Attempt}
    (same : List.Forall₂ (fun one other => other.identity = one.identity ∧
      other.executed = one.executed ∧ other.drawn = ρ one.drawn) attempts others) :
    Renames ρ (replay attempts).context (replay others).context ∧
      (replay others).rows = (replay attempts).rows.map fun row => (row.1, row.2.rename ρ) := by
  suffices step : ∀ ledger renamed : Ledger, Renames ρ ledger.context renamed.context →
      renamed.rows = ledger.rows.map (fun row => (row.1, row.2.rename ρ)) →
      Renames ρ (attempts.foldl Ledger.take ledger).context
          (others.foldl Ledger.take renamed).context ∧
        (others.foldl Ledger.take renamed).rows =
          (attempts.foldl Ledger.take ledger).rows.map fun row => (row.1, row.2.rename ρ) from
    step _ _ .empty rfl
  induction same with
  | nil => exact fun ledger renamed context rows => ⟨context, rows⟩
  | @cons one other attempts others alike _ ih =>
      intro ledger renamed context rows
      obtain ⟨identity, executed, drawn⟩ := alike
      obtain ⟨next, link⟩ := context.assign one.identity one.drawn
      refine ih _ _ ?_ ?_
      · show Renames ρ _ (assignSpanForEvent renamed.context other.identity other.drawn).1
        rw [identity, drawn]
        exact next
      · have keys : renamed.rows.map Prod.fst = ledger.rows.map Prod.fst := by
          rw [rows, List.map_map]
          rfl
        simp only [Ledger.take, Attempt.key, identity, executed, drawn, keys, link]
        by_cases new : one.executed = true ∧ one.identity.dedupKey ∉ ledger.rows.map Prod.fst
        · rw [if_pos new, if_pos new, rows, List.map_append, List.map_singleton]
        · rw [if_neg new, if_neg new, rows]

/-- Some renaming takes the spans that are drawn at some events to those that others draw there. -/
theorem exists_renaming_of_identities {others : List Attempt}
    (same : attempts.map Attempt.identity = others.map Attempt.identity)
    (distinct : (attempts.map Attempt.drawn).Nodup) (distinct' : (others.map Attempt.drawn).Nodup) :
    ∃ ρ : Equiv.Perm String, List.Forall₂
      (fun one other => other.identity = one.identity ∧ other.drawn = ρ one.drawn)
      attempts others := by
  have length : attempts.length = others.length := by
    simpa using congrArg List.length same
  have alike : List.Forall₂ (fun one other : Attempt => one.identity = other.identity)
      attempts others := by
    rw [← List.forall₂_eq_eq_eq, List.forall₂_map_left_iff, List.forall₂_map_right_iff] at same
    exact same
  obtain ⟨ρ, renamed⟩ := @Equiv.Perm.exists_of_nodup _
    ((attempts.map Attempt.drawn).zip (others.map Attempt.drawn))
    (by rwa [List.map_fst_zip (by simp [length])]) (by rwa [List.map_snd_zip (by simp [length])])
  refine ⟨ρ, List.forall₂_iff_zip.mpr ⟨length, fun {one other} member => ⟨?_, ?_⟩⟩⟩
  · exact ((List.forall₂_iff_zip.mp alike).2 member).symm
  · refine (renamed (one.drawn, other.drawn) ?_).symm
    rw [List.zip_map]
    exact List.mem_map_of_mem (f := Prod.map Attempt.drawn Attempt.drawn) member

theorem firstAttempts_sublist (attempts : List Attempt) :
    (firstAttempts attempts).Sublist attempts := by
  induction attempts using List.reverseRecOn with
  | nil => exact List.Sublist.slnil
  | append_singleton past attempt ih =>
      rw [firstAttempts, along_concat]
      refine ih.append ?_
      split
      · exact List.nil_sublist _
      · exact List.Sublist.refl _

theorem lookup_map_rename (rows : List (String × SpanLink)) (key : String) :
    (rows.map fun row => (row.1, row.2.rename ρ)).lookup key =
      (rows.lookup key).map (SpanLink.rename ρ) := by
  induction rows with
  | nil => rfl
  | cons row rows ih =>
      rw [List.map_cons, List.lookup_cons, List.lookup_cons, ih]
      split <;> rfl

@[simp] theorem SpanLink.rename_rename (ρ σ : Equiv.Perm String) (link : SpanLink) :
    (link.rename ρ).rename σ = link.rename (ρ.trans σ) := by
  simp [rename, Function.comp_def]

/-- A key that has come is stored, or its file waits. -/
theorem Sound.stored_or_waiting (sound : Sound attempts) : ∀ attempt ∈ attempts,
    ((replay attempts).rows.lookup attempt.key).isSome = true ∨
      ∃ path earlier, waiting attempts path = some earlier ∧ earlier.key = attempt.key := by
  induction sound with
  | nil => exact fun attempt member => absurd member List.not_mem_nil
  | @concat past last sound found kept new harmless ih =>
      have now : ((replay (past ++ [last])).rows.lookup last.key).isSome = true ∨
          ∃ path earlier, waiting (past ++ [last]) path = some earlier ∧
            earlier.key = last.key := by
        cases executed : last.executed with
        | true =>
            exact Or.inl ((isSome_lookup_replay _ _).mpr ⟨last, by simp, executed, rfl⟩)
        | false =>
            refine Or.inr ⟨last.path, last, ?_, rfl⟩
            rw [waiting_concat, if_pos rfl]
            simp [executed]
      intro attempt member
      rcases List.mem_append.mp member with before | same
      · rcases ih attempt before with stored | ⟨path, earlier, waits, key⟩
        · exact Or.inl (isSome_lookup_concat stored last)
        · by_cases here : last.path = path
          · -- the file that waited is taken again
            subst here
            have again : attempt.key = last.key :=
              key.symm.trans (congrArg EventIdentity.dedupKey (kept earlier waits))
            rw [again]
            exact now
          · exact Or.inr ⟨path, earlier, by rw [waiting_concat, if_neg here]; exact waits, key⟩
      · rw [List.mem_singleton.mp same]
        exact now

/-- **Attempts that do no harm, and others at the same events of which none fails.** The rows have
the same links up to the names of the spans, and the same keys when no file waits. -/
theorem Sound.exists_rename {calm : List Attempt} (sound : Sound attempts)
    (same : (firstAttempts attempts).map Attempt.identity = calm.map Attempt.identity)
    (executed : ∀ attempt ∈ calm, attempt.executed = true)
    (distinct : (calm.map Attempt.drawn).Nodup) :
    ∃ ρ : Equiv.Perm String,
      (∀ key link, (replay attempts).rows.lookup key = some link →
        (replay calm).rows.lookup key = some (link.rename ρ)) ∧
      ((∀ path, waiting attempts path = none) → ∀ key,
        (replay calm).rows.lookup key = ((replay attempts).rows.lookup key).map
          (SpanLink.rename ρ)) := by
  obtain ⟨inner, renamed⟩ := sound.exists_renaming
  have mirrors := sound.mirrors renamed
  obtain ⟨outer, alike⟩ := exists_renaming_of_identities same
    (sound.nodup.sublist ((firstAttempts_sublist attempts).map _)) distinct
  have rows := (@replay_renamed outer (undisturbed attempts) calm (by
    rw [undisturbed, List.forall₂_map_left_iff, List.forall₂_iff_zip]
    obtain ⟨length, pairs⟩ := List.forall₂_iff_zip.mp alike
    exact ⟨length, fun {one other} member => ⟨(pairs member).1,
      executed other (List.of_mem_zip member).2, (pairs member).2⟩⟩)).2
  have stored (key : String) (link : SpanLink)
      (held : (replay attempts).rows.lookup key = some link) :
      (replay calm).rows.lookup key = some (link.rename (inner.trans outer)) := by
    rw [rows, lookup_map_rename, mirrors.stored key link held, Option.map_some,
      SpanLink.rename_rename]
  refine ⟨inner.trans outer, stored, fun settled key => ?_⟩
  cases held : (replay attempts).rows.lookup key with
  | some link => exact stored key link held
  | none =>
      have absent : (replay (undisturbed attempts)).rows.lookup key = none := by
        rw [← Option.not_isSome_iff_eq_none, mirrors.known]
        rintro ⟨attempt, member, rfl⟩
        rcases sound.stored_or_waiting attempt member with row | ⟨path, earlier, waits, -⟩
        · rw [held] at row
          cases row
        · rw [settled path] at waits
          cases waits
      rw [rows, lookup_map_rename, absent]
      rfl

end Panakoes.Telemetry
