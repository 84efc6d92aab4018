import Mathlib.Data.List.Nodup
import Mathlib.Logic.Equiv.Fintype
import Panakoes.Telemetry.Flusher

/-! # Renamed spans

Spans are drawn at random, so a trace context is told from another up to a renaming of its spans.
An event that draws the renamed span in the renamed context is given the renamed link. Some events
leave the context as it is: those that neither begin a span nor end one.
-/

/-- Pairs that repeat nothing on either side extend to a permutation. -/
theorem Equiv.Perm.exists_of_nodup {α : Type*} {pairs : List (α × α)}
    (left : (pairs.map Prod.fst).Nodup) (right : (pairs.map Prod.snd).Nodup) :
    ∃ ρ : Equiv.Perm α, ∀ pair ∈ pairs, ρ pair.1 = pair.2 := by
  classical
  have injective {f : α × α → α} (nodup : (pairs.map f).Nodup) :
      Function.Injective fun pair : {pair // pair ∈ pairs} => f pair.1 := fun first second same =>
    Subtype.ext (List.inj_on_of_nodup_map nodup first.2 second.2 same)
  obtain ⟨ρ, maps⟩ := Equiv.Perm.exists_extending_pair _ _ (injective left) (injective right)
  exact ⟨ρ, fun pair member => maps ⟨pair, member⟩⟩

namespace Panakoes.Telemetry

variable {ρ : Equiv.Perm String} {context other : SpanContext} {identity : EventIdentity}
  {sessionId toolUseId spanId : String} {stack others : List String}

/-! ## Renamings -/

/-- The link under a renaming of the spans. -/
def SpanLink.rename (ρ : Equiv.Perm String) (link : SpanLink) : SpanLink :=
  ⟨ρ link.spanId, link.parentSpanId.map ρ⟩

/-- The span on top of the stack of a session. -/
def SpanContext.top (context : SpanContext) (sessionId : String) : Option String :=
  (context.stack sessionId).getLast?

/-- The second context is the first under a renaming of the spans. -/
structure Renames (ρ : Equiv.Perm String) (context other : SpanContext) : Prop where
  calls : ∀ toolUseId, other.spanIdByToolUseId.lookup toolUseId =
    (context.spanIdByToolUseId.lookup toolUseId).map ρ
  active : ∀ sessionId, other.stack sessionId = (context.stack sessionId).map ρ

theorem Renames.refl (context : SpanContext) : Renames (Equiv.refl String) context context where
  calls _ := Option.map_id.symm ▸ rfl
  active _ := (List.map_id _).symm

theorem Renames.empty : Renames ρ .empty .empty := ⟨fun _ => rfl, fun _ => rfl⟩

theorem Renames.top (renames : Renames ρ context other) (sessionId : String) :
    other.top sessionId = (context.top sessionId).map ρ := by
  rw [SpanContext.top, renames.active, List.getLast?_map, SpanContext.top]

theorem Renames.setStack (renames : Renames ρ context other) (same : others = stack.map ρ) :
    Renames ρ (context.setStack sessionId stack) (other.setStack sessionId others) where
  calls := renames.calls
  active session := by
    by_cases this : session = sessionId
    · subst this
      rw [SpanContext.stack_setStack, SpanContext.stack_setStack, same]
    · rw [SpanContext.stack_setStack_of_ne this, SpanContext.stack_setStack_of_ne this,
        renames.active]

theorem Renames.insertCall (renames : Renames ρ context other) :
    Renames ρ
      { context with spanIdByToolUseId := context.spanIdByToolUseId.insert toolUseId spanId }
      { other with
        spanIdByToolUseId := other.spanIdByToolUseId.insert toolUseId (ρ spanId) } where
  calls call := by
    by_cases same : call = toolUseId
    · subst same
      rw [AList.lookup_insert, AList.lookup_insert, Option.map_some]
    · rw [AList.lookup_insert_ne same, AList.lookup_insert_ne same, renames.calls]
  active := renames.active

theorem Renames.eraseCall (renames : Renames ρ context other) :
    Renames ρ { context with spanIdByToolUseId := context.spanIdByToolUseId.erase toolUseId }
      { other with spanIdByToolUseId := other.spanIdByToolUseId.erase toolUseId } where
  calls call := by
    by_cases same : call = toolUseId
    · subst same
      rw [AList.lookup_erase, AList.lookup_erase, Option.map_none]
    · rw [AList.lookup_erase_ne same, AList.lookup_erase_ne same, renames.calls]
  active := renames.active

theorem popMatching_map (stack : List String) (spanId : String) :
    popMatching (stack.map ρ) (ρ spanId) = (popMatching stack spanId).map ρ := by
  unfold popMatching
  by_cases member : spanId ∈ stack
  · rw [if_pos (List.mem_map_of_mem member), if_pos member, List.map_erase ρ.injective]
  · rw [if_neg (mt (List.mem_map_of_injective ρ.injective).mp member), if_neg member,
      List.map_dropLast]

theorem Renames.push (renames : Renames ρ context other) :
    Renames ρ (context.push sessionId spanId).1 (other.push sessionId (ρ spanId)).1 ∧
      (other.push sessionId (ρ spanId)).2 = (context.push sessionId spanId).2.rename ρ := by
  refine ⟨renames.setStack ?_, ?_⟩
  · rw [renames.active, List.map_append, List.map_singleton]
  · rw [SpanContext.push, renames.active, List.getLast?_map]
    rfl

theorem Renames.finishCall (renames : Renames ρ context other) :
    Renames ρ (context.finishCall sessionId toolUseId spanId).1
        (other.finishCall sessionId toolUseId (ρ spanId)).1 ∧
      (other.finishCall sessionId toolUseId (ρ spanId)).2 =
        (context.finishCall sessionId toolUseId spanId).2.rename ρ := by
  have ended : (other.spanIdByToolUseId.lookup toolUseId).getD (ρ spanId) =
      ρ ((context.spanIdByToolUseId.lookup toolUseId).getD spanId) := by
    rw [renames.calls, Option.getD_map]
  have popped : popMatching (other.stack sessionId)
        ((other.spanIdByToolUseId.lookup toolUseId).getD (ρ spanId)) =
      (popMatching (context.stack sessionId)
        ((context.spanIdByToolUseId.lookup toolUseId).getD spanId)).map ρ := by
    rw [ended, renames.active, popMatching_map]
  refine ⟨renames.eraseCall.setStack popped, ?_⟩
  show (⟨_, (popMatching (other.stack sessionId) _).getLast?⟩ : SpanLink) = _
  rw [popped, ended, List.getLast?_map]
  rfl

theorem Renames.pop (renames : Renames ρ context other) :
    Renames ρ (context.pop sessionId spanId).1 (other.pop sessionId (ρ spanId)).1 ∧
      (other.pop sessionId (ρ spanId)).2 = (context.pop sessionId spanId).2.rename ρ := by
  refine ⟨renames.setStack ?_, ?_⟩
  · rw [renames.active, List.map_dropLast]
  · simp only [SpanContext.pop, SpanLink.rename, renames.active, List.getLast?_map,
      ← List.map_dropLast, Option.getD_map]

/-- An event that draws the renamed span is given the renamed link. -/
theorem Renames.assign (renames : Renames ρ context other) (identity : EventIdentity)
    (spanId : String) :
    Renames ρ (assignSpanForEvent context identity spanId).1
        (assignSpanForEvent other identity (ρ spanId)).1 ∧
      (assignSpanForEvent other identity (ρ spanId)).2 =
        (assignSpanForEvent context identity spanId).2.rename ρ := by
  unfold assignSpanForEvent
  cases identity.spanEvent with
  | startCall toolUseId => exact renames.insertCall.push
  | finishCall toolUseId => exact renames.finishCall
  | startSubagent => exact renames.push
  | stopSubagent => exact renames.pop
  | startSession => exact ⟨renames.setStack rfl, rfl⟩
  | standalone =>
      refine ⟨renames, ?_⟩
      simp only [SpanLink.rename, renames.active, List.getLast?_map]

/-! ## Events that leave the context as it is -/

/-- The event neither begins a span nor ends one. -/
def SpanContext.Quiet (context : SpanContext) (identity : EventIdentity) : Prop :=
  match identity.spanEvent with
  | .finishCall toolUseId =>
      context.spanIdByToolUseId.lookup toolUseId = none ∧ context.stack identity.sessionId = []
  | .stopSubagent => context.stack identity.sessionId = []
  | .standalone => True
  | .startCall _ | .startSubagent | .startSession => False

/-- A stack that is put back changes nothing. -/
theorem Renames.setStack_same (renames : Renames ρ context other)
    (same : other.stack sessionId = stack) :
    Renames ρ context (other.setStack sessionId stack) where
  calls := renames.calls
  active session := by
    by_cases this : session = sessionId
    · subst this
      rw [SpanContext.stack_setStack, ← same, renames.active]
    · rw [SpanContext.stack_setStack_of_ne this, renames.active]

theorem Renames.eraseCall_of_none (renames : Renames ρ context other)
    (unknown : other.spanIdByToolUseId.lookup toolUseId = none) :
    Renames ρ context
      { other with spanIdByToolUseId := other.spanIdByToolUseId.erase toolUseId } where
  calls call := by
    by_cases same : call = toolUseId
    · subst same
      rw [AList.lookup_erase, ← renames.calls, unknown]
    · rw [AList.lookup_erase_ne same, renames.calls]
  active := renames.active

/-- A quiet event gets its own span under the top of the stack. -/
theorem SpanContext.Quiet.link (quiet : context.Quiet identity) (spanId : String) :
    (assignSpanForEvent context identity spanId).2 = ⟨spanId, context.top identity.sessionId⟩ := by
  unfold Quiet at quiet
  unfold assignSpanForEvent
  cases event : identity.spanEvent with
  | finishCall toolUseId =>
      rw [event] at quiet
      simp [finishCall, quiet.1, quiet.2, popMatching, top]
  | stopSubagent =>
      rw [event] at quiet
      simp [pop, quiet, top]
  | standalone => rfl
  | startCall | startSubagent | startSession =>
      rw [event] at quiet
      exact False.elim quiet

/-- After a quiet event the context is as it was. -/
theorem Renames.after_quiet (renames : Renames ρ context other) (quiet : other.Quiet identity)
    (spanId : String) : Renames ρ context (assignSpanForEvent other identity spanId).1 := by
  unfold SpanContext.Quiet at quiet
  unfold assignSpanForEvent
  cases event : identity.spanEvent with
  | finishCall toolUseId =>
      rw [event] at quiet
      obtain ⟨unknown, bare⟩ := quiet
      refine (renames.eraseCall_of_none unknown).setStack_same ?_
      rw [bare]
      exact bare
  | stopSubagent =>
      rw [event] at quiet
      refine renames.setStack_same ?_
      rw [quiet]
      rfl
  | standalone => exact renames
  | startCall | startSubagent | startSession =>
      rw [event] at quiet
      exact False.elim quiet

theorem SpanContext.Quiet.renamed (quiet : context.Quiet identity)
    (renames : Renames ρ context other) : other.Quiet identity := by
  unfold Quiet at quiet ⊢
  cases event : identity.spanEvent with
  | finishCall toolUseId =>
      rw [event] at quiet
      exact ⟨by rw [renames.calls, quiet.1, Option.map_none],
        by rw [renames.active, quiet.2, List.map_nil]⟩
  | stopSubagent =>
      rw [event] at quiet
      exact (renames.active _).trans (by rw [quiet, List.map_nil])
  | standalone => trivial
  | startCall | startSubagent | startSession =>
      rw [event] at quiet
      exact False.elim quiet

/-- Before a quiet event the context is as it is after it. -/
theorem Renames.before_quiet (renames : Renames ρ context other) (quiet : context.Quiet identity)
    (spanId : String) : Renames ρ (assignSpanForEvent context identity spanId).1 other := by
  have same := (Renames.refl context).after_quiet quiet spanId
  constructor
  · intro call
    rw [renames.calls, same.calls, Option.map_map]
    rfl
  · intro session
    rw [renames.active, same.active, List.map_map]
    rfl

end Panakoes.Telemetry
