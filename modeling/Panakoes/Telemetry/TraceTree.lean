import Panakoes.Foundation.Forest
import Panakoes.Telemetry.Flusher

/-! # Trace trees

Whether the spans stored for a session form a tree. A span hangs under the top
of the session's stack, so the stack has to be a branch of the stored tree. It
is one as long as every event that begins a span has its row stored and every
tool call that ends has its span on top. The stack stops being one when calls
overlap, or when a span is put on it whose row is then ignored.
-/

namespace Panakoes.Telemetry

open Transition Forest

variable {ε κ : Type*} {flusher : Flusher ε κ} {rows : List (ProcessedEvent κ)}
  {row : ProcessedEvent κ} {context : SpanContext} {sessionId call spanId newSpan : String}
  {stack drawns : List String}

/-! ## The tree of a session -/

/-- The row stores a span of the session and what it hangs under. -/
def ParentSpan (rows : List (ProcessedEvent κ)) (sessionId child parent : String) : Prop :=
  ∃ row ∈ rows, row.sessionId = sessionId ∧ row.spanId = child ∧
    row.parentSpanId = some parent

/-- The rows of a session form a tree. -/
structure TraceTree (rows : List (ProcessedEvent κ)) (sessionId : String) : Prop where
  parents : ∀ child parent, ParentSpan rows sessionId child parent →
    ∃ row ∈ rows, row.sessionId = sessionId ∧ row.spanId = parent
  calls : ∀ call, ∀ pre ∈ rows, ∀ post ∈ rows,
    pre.sessionId = sessionId → post.sessionId = sessionId →
    pre.spanEvent = .startCall call → post.spanEvent = .finishCall call →
    pre.parentSpanId = post.parentSpanId
  acyclic : ∀ span, ¬ Relation.TransGen (ParentSpan rows sessionId) span span

/-- The links of a session. -/
def sessionLinks (rows : List (ProcessedEvent κ)) (sessionId : String) :
    List (String × Option String) :=
  (rows.filter (·.sessionId = sessionId)).map fun row => (row.spanId, row.parentSpanId)

theorem mem_sessionLinks {link : String × Option String} :
    link ∈ sessionLinks rows sessionId ↔
      ∃ row ∈ rows, row.sessionId = sessionId ∧ (row.spanId, row.parentSpanId) = link := by
  simp [sessionLinks, and_assoc]

theorem mem_nodes_sessionLinks :
    spanId ∈ nodes (sessionLinks rows sessionId) ↔
      ∃ row ∈ rows, row.sessionId = sessionId ∧ row.spanId = spanId := by
  simp [nodes, sessionLinks, and_assoc]

theorem parent_sessionLinks {child parent : String} :
    Parent (sessionLinks rows sessionId) child parent ↔
      ParentSpan rows sessionId child parent := by
  simp [Parent, ParentSpan, mem_sessionLinks]

theorem sessionLinks_concat (rows : List (ProcessedEvent κ)) (row : ProcessedEvent κ)
    (sessionId : String) :
    sessionLinks (rows ++ [row]) sessionId =
      sessionLinks rows sessionId ++
        if row.sessionId = sessionId then [(row.spanId, row.parentSpanId)] else [] := by
  by_cases same : row.sessionId = sessionId <;> simp [sessionLinks, List.filter_append, same]

/-! ## Events in order -/

/-- The row of the event is going to be stored. -/
def Storable (flusher : Flusher ε κ) (state : State κ) (raw : HookEvent)
    (input : DrainInput ε) : Prop :=
  (EventIdentity.of flusher.repr raw).dedupKey ∉ rowKeys state.events ∧
    input.insertion = .executed ∧ (flusher.columns raw input.redaction).isOk

/-- No row of the session stores such an event. -/
def Unseen (rows : List (ProcessedEvent κ)) (sessionId : String) (event : SpanEvent) : Prop :=
  ∀ row ∈ rows, row.sessionId = sessionId → row.spanEvent ≠ event

/-- Whether the event begins a span, which goes on the stack. -/
def SpanEvent.Begins : SpanEvent → Prop
  | .startCall _ | .startSubagent | .startSession => True
  | .finishCall _ | .stopSubagent | .standalone => False

/-- The start of a call comes before its end, and the call that ends is the one
on top of the stack, unless the event is a duplicate or its start unknown. -/
def InOrder (rows : List (ProcessedEvent κ)) (context : SpanContext)
    (identity : EventIdentity) : Prop :=
  match identity.spanEvent with
  | .startCall call => Unseen rows identity.sessionId (.finishCall call)
  | .finishCall call =>
      match context.spanIdByToolUseId.lookup call with
      | some spanId => (context.stack identity.sessionId).getLast? = some spanId
      | none => identity.dedupKey ∈ rows.map (·.dedupKey) ∨
          Unseen rows identity.sessionId (.startCall call)
  | .startSubagent | .startSession | .stopSubagent | .standalone => True

/-- The span an action draws, if any. -/
def Action.drawn : Action ε → Option String
  | .drain input => some input.spanId
  | .spool _ _ | .list _ | .restart => none

/-- The spans that have been drawn. -/
def drawnSpans (past : List (Action ε)) : List String := past.filterMap Action.drawn

/-- An event that is given a span draws a new one and comes in order, and one
that begins a span has its row stored. -/
def OrderlyEvent (flusher : Flusher ε κ) (past : List (Action ε)) (state : State κ)
    (input : DrainInput ε) (raw : HookEvent) : Prop :=
  let identity := EventIdentity.of flusher.repr raw
  (traceIdOf state.ids identity input.traceId).2.isOk →
    input.spanId ∉ drawnSpans past ∧
      (identity.spanEvent.Begins → Storable flusher state raw input) ∧
      InOrder (storedEvents state.events) state.spans identity

/-- The event an action takes up, if any, is orderly. -/
def Orderly (flusher : Flusher ε κ) (past : List (Action ε)) (state : State κ) :
    Action ε → Prop
  | .drain input =>
      ∀ path ∈ state.pass.head?, ∀ text ∈ state.spool.lookup path,
        ∀ raw ∈ flusher.eventOf text, OrderlyEvent flusher past state input raw
  | .spool _ _ | .list _ | .restart => True

/-! ## Stacks as branches -/

/-- A stored forest, and stacks that are branches of it. -/
structure Rooted (drawns : List String) (rows : List (ProcessedEvent κ))
    (context : SpanContext) : Prop where
  forest : ∀ sessionId, Grown (sessionLinks rows sessionId)
  calls : ∀ call, ∀ pre ∈ rows, ∀ post ∈ rows, pre.sessionId = post.sessionId →
    pre.spanEvent = .startCall call → post.spanEvent = .finishCall call →
    pre.parentSpanId = post.parentSpanId
  keys : (rows.map (·.dedupKey)).Nodup
  apart : ∀ row ∈ rows, ∀ other ∈ rows, row.spanId = other.spanId →
    row.sessionId = other.sessionId
  drawn : ∀ row ∈ rows, row.spanId ∈ drawns
  branches : ∀ sessionId, Branch (sessionLinks rows sessionId) (context.stack sessionId)
  started : ∀ call spanId, context.spanIdByToolUseId.lookup call = some spanId →
    ∃ row ∈ rows, row.spanEvent = .startCall call ∧ row.spanId = spanId

theorem Rooted.initial : Rooted [] ([] : List (ProcessedEvent κ)) .empty where
  forest _ := .nil
  calls := by rintro call pre ⟨⟩
  keys := List.nodup_nil
  apart := by rintro row ⟨⟩
  drawn := by rintro row ⟨⟩
  branches _ := .nil
  started := by rintro call spanId ⟨⟩

/-- Rooted rows form a tree in each session. -/
theorem Rooted.traceTree (rooted : Rooted drawns rows context) (sessionId : String) :
    TraceTree rows sessionId where
  parents _ _ hangs :=
    mem_nodes_sessionLinks.mp ((rooted.forest sessionId).parent_mem (parent_sessionLinks.mpr hangs))
  calls call pre held post held' session session' :=
    rooted.calls call pre held post held' (session.trans session'.symm)
  acyclic span cycle :=
    (rooted.forest sessionId).acyclic span
      (Relation.TransGen.mono (fun _ _ hangs => parent_sessionLinks.mpr hangs) _ _ cycle)

/-- Earlier rows are rooted in an empty context. -/
theorem Rooted.of_shorter {earlier : List (ProcessedEvent κ)} (rooted : Rooted drawns rows context)
    (shorter : earlier <+: rows) : Rooted drawns earlier .empty where
  forest sessionId := (rooted.forest sessionId).of_shorter ((shorter.filter _).map _)
  calls call pre held post held' :=
    rooted.calls call pre (shorter.subset held) post (shorter.subset held')
  keys := rooted.keys.sublist (shorter.sublist.map _)
  apart row held other held' :=
    rooted.apart row (shorter.subset held) other (shorter.subset held')
  drawn row held := rooted.drawn row (shorter.subset held)
  branches _ := .nil
  started := by rintro call spanId ⟨⟩

theorem Rooted.mono {more : List String} (rooted : Rooted drawns rows context)
    (grown : drawns ⊆ more) : Rooted more rows context :=
  { rooted with drawn := fun row held => grown (rooted.drawn row held) }

/-- The stack of a session is replaced by another branch. -/
theorem Rooted.setStack (rooted : Rooted drawns rows context)
    (isBranch : Branch (sessionLinks rows sessionId) stack) :
    Rooted drawns rows (context.setStack sessionId stack) where
  __ := rooted
  started := rooted.started
  branches other := by
    by_cases same : other = sessionId
    · subst same
      rw [SpanContext.stack_setStack]
      exact isBranch
    · rw [SpanContext.stack_setStack_of_ne same]
      exact rooted.branches other

theorem Rooted.eraseCall (rooted : Rooted drawns rows context) (call : String) :
    Rooted drawns rows
      { context with spanIdByToolUseId := context.spanIdByToolUseId.erase call } where
  __ := rooted
  branches := rooted.branches
  started other spanId found := by
    by_cases same : other = call
    · subst same
      rw [AList.lookup_erase] at found
      cases found
    · rw [AList.lookup_erase_ne same] at found
      exact rooted.started other spanId found

theorem Rooted.insertCall (rooted : Rooted drawns rows context) (held : row ∈ rows)
    (starts : row.spanEvent = .startCall call) :
    Rooted drawns rows
      { context with
        spanIdByToolUseId := context.spanIdByToolUseId.insert call row.spanId } where
  __ := rooted
  branches := rooted.branches
  started other spanId found := by
    rcases Table.lookup_insert_cases found with ⟨rfl, rfl⟩ | ⟨_, before⟩
    · exact ⟨row, held, starts, rfl⟩
    · exact rooted.started other spanId before

/-- The row hangs a new span under a span of its session, or repeats a link. -/
def Hangs (rows : List (ProcessedEvent κ)) (row : ProcessedEvent κ) : Prop :=
  ((∀ other ∈ rows, other.spanId ≠ row.spanId) ∧
      ∀ parent ∈ row.parentSpanId, parent ∈ nodes (sessionLinks rows row.sessionId)) ∨
    (row.spanId, row.parentSpanId) ∈ sessionLinks rows row.sessionId

/-- A row is stored. -/
theorem Rooted.record (rooted : Rooted drawns rows context)
    (key : row.dedupKey ∉ rows.map (·.dedupKey)) (known : row.spanId ∈ drawns)
    (hangs : Hangs rows row)
    (starts : ∀ call, row.spanEvent = .startCall call →
      Unseen rows row.sessionId (.finishCall call))
    (finishes : ∀ call, row.spanEvent = .finishCall call → ∀ pre ∈ rows,
      pre.sessionId = row.sessionId → pre.spanEvent = .startCall call →
      pre.parentSpanId = row.parentSpanId) :
    Rooted drawns (rows ++ [row]) context where
  forest sessionId := by
    have before := rooted.forest sessionId
    rw [sessionLinks_concat]
    by_cases same : row.sessionId = sessionId
    · subst same
      rw [if_pos rfl]
      rcases hangs with ⟨new, below⟩ | again
      · refine before.fresh (fun member => ?_) below
        obtain ⟨other, held, _, span⟩ := mem_nodes_sessionLinks.mp member
        exact new other held span
      · exact before.again again
    · rw [if_neg same, List.append_nil]
      exact before
  calls call pre held post held' session start finish := by
    rcases List.mem_append.mp held with old | now
    · rcases List.mem_append.mp held' with old' | now'
      · exact rooted.calls call pre old post old' session start finish
      · cases List.mem_singleton.mp now'
        exact finishes call finish pre old session start
    · cases List.mem_singleton.mp now
      rcases List.mem_append.mp held' with old' | now'
      · exact absurd finish (starts call start post old' session.symm)
      · cases List.mem_singleton.mp now'
        cases start.symm.trans finish
  keys := by
    rw [List.map_append, List.map_singleton, ← List.concat_eq_append]
    exact rooted.keys.concat key
  apart := by
    have shared : ∀ other ∈ rows, other.spanId = row.spanId →
        other.sessionId = row.sessionId := by
      intro other held span
      rcases hangs with ⟨new, _⟩ | again
      · exact absurd span (new other held)
      · obtain ⟨former, held', session, link⟩ := mem_sessionLinks.mp again
        rw [← session]
        exact rooted.apart other held former held' (span.trans (congrArg Prod.fst link).symm)
    intro one held other held' span
    rcases List.mem_append.mp held with old | now
    · rcases List.mem_append.mp held' with old' | now'
      · exact rooted.apart one old other old' span
      · cases List.mem_singleton.mp now'
        exact shared one old span
    · cases List.mem_singleton.mp now
      rcases List.mem_append.mp held' with old' | now'
      · exact (shared other old' span.symm).symm
      · cases List.mem_singleton.mp now'
        rfl
  drawn other held := by
    rcases List.mem_append.mp held with old | now
    · exact rooted.drawn other old
    · cases List.mem_singleton.mp now
      exact known
  branches sessionId := by
    refine (rooted.branches sessionId).mono ?_
    rw [sessionLinks_concat]
    exact List.subset_append_left _ _
  started call spanId found := by
    obtain ⟨other, held, event⟩ := rooted.started call spanId found
    exact ⟨other, List.mem_append_left _ held, event⟩

/-! ## What an event does to the stacks -/

theorem Rooted.mem_nodes_of_mem_stack (rooted : Rooted drawns rows context)
    (member : spanId ∈ context.stack sessionId) :
    spanId ∈ nodes (sessionLinks rows sessionId) :=
  (rooted.branches sessionId).mem_nodes member

theorem Rooted.notMem_stack (rooted : Rooted drawns rows context) (new : newSpan ∉ drawns) :
    newSpan ∉ context.stack sessionId := by
  intro member
  obtain ⟨row, held, _, rfl⟩ :=
    mem_nodes_sessionLinks.mp (rooted.mem_nodes_of_mem_stack member)
  exact new (rooted.drawn row held)

theorem Rooted.ne_of_new (rooted : Rooted drawns rows context) (new : newSpan ∉ drawns) :
    ∀ other ∈ rows, other.spanId ≠ newSpan := by
  rintro other held rfl
  exact new (rooted.drawn other held)

/-- Popping the call on top, or one that is not on the stack, takes the top. -/
theorem popMatching_eq_dropLast (distinct : stack.Nodup)
    (top : stack.getLast? = some spanId ∨ spanId ∉ stack) :
    popMatching stack spanId = stack.dropLast := by
  rcases top with last | absent
  · obtain ⟨below, rfl⟩ := List.getLast?_eq_some_iff.mp last
    have absent : spanId ∉ below := fun member =>
      (List.pairwise_append.mp distinct).2.2 spanId member spanId List.mem_cons_self rfl
    rw [popMatching, if_pos (List.mem_append_right _ List.mem_cons_self),
      List.erase_append_right _ absent, List.erase_cons_head, List.dropLast_concat,
      List.append_nil]
  · rw [popMatching, if_neg absent]

/-- The call that ends in order is on top, or not on the stack at all. -/
theorem Rooted.finish_top {identity : EventIdentity} (rooted : Rooted drawns rows context)
    (new : newSpan ∉ drawns) (finishes : identity.spanEvent = .finishCall call)
    (order : InOrder rows context identity) :
    popMatching (context.stack identity.sessionId)
        ((context.spanIdByToolUseId.lookup call).getD newSpan) =
      (context.stack identity.sessionId).dropLast := by
  apply popMatching_eq_dropLast ((rooted.branches _).nodup (rooted.forest _))
  rw [InOrder, finishes] at order
  cases found : context.spanIdByToolUseId.lookup call with
  | none => exact Or.inr (rooted.notMem_stack new)
  | some spanId =>
      simp only [found] at order
      exact Or.inl order

/-- The stack without its top is a branch. -/
theorem Rooted.dropLast (rooted : Rooted drawns rows context) (sessionId : String) :
    Rooted drawns rows (context.setStack sessionId (context.stack sessionId).dropLast) :=
  rooted.setStack ((rooted.branches sessionId).of_shorter (List.dropLast_prefix _))

/-- An event that begins no span keeps the stacks branches. -/
theorem Rooted.assign {identity : EventIdentity} (rooted : Rooted drawns rows context)
    (new : newSpan ∉ drawns) (begins : ¬ identity.spanEvent.Begins)
    (order : InOrder rows context identity) :
    Rooted drawns rows (assignSpanForEvent context identity newSpan).1 := by
  unfold assignSpanForEvent
  cases event : identity.spanEvent with
  | startCall call => exact absurd (by rw [event]; trivial) begins
  | finishCall call =>
      simp only [SpanContext.finishCall, rooted.finish_top new event order]
      exact (rooted.eraseCall call).dropLast identity.sessionId
  | startSubagent => exact absurd (by rw [event]; trivial) begins
  | stopSubagent => exact rooted.dropLast identity.sessionId
  | startSession => exact absurd (by rw [event]; trivial) begins
  | standalone => exact rooted

/-- A new span hangs under the last one of a branch. -/
theorem Rooted.hangs_new {below : List String} (rooted : Rooted drawns rows context)
    (new : newSpan ∉ drawns) (isBranch : Branch (sessionLinks rows row.sessionId) below)
    (span : row.spanId = newSpan) (parent : row.parentSpanId = below.getLast?) :
    Hangs rows row := by
  refine Or.inl ⟨span ▸ rooted.ne_of_new new, fun other held => ?_⟩
  rw [parent] at held
  exact isBranch.mem_nodes (List.mem_of_getLast? held)

/-- The top of the stack hangs where it has been put. -/
theorem Rooted.hangs_top {below : List String} (rooted : Rooted drawns rows context)
    (top : context.stack row.sessionId = below ++ [row.spanId])
    (parent : row.parentSpanId = below.getLast?) : Hangs rows row := by
  have isBranch := rooted.branches row.sessionId
  rw [top] at isBranch
  rw [Hangs, parent]
  exact Or.inr isBranch.last

/-- An event begins a span and has its row stored. -/
theorem Rooted.begin {below : List String} (rooted : Rooted drawns rows context)
    (new : newSpan ∉ drawns) (key : row.dedupKey ∉ rows.map (·.dedupKey))
    (isBranch : Branch (sessionLinks rows row.sessionId) below)
    (span : row.spanId = newSpan) (parent : row.parentSpanId = below.getLast?)
    (starts : ∀ call, row.spanEvent = .startCall call →
      Unseen rows row.sessionId (.finishCall call))
    (begins : row.spanEvent.Begins) :
    Rooted (drawns ++ [newSpan]) (rows ++ [row])
      (context.setStack row.sessionId (below ++ [newSpan])) := by
  have recorded := (rooted.mono (List.subset_append_left _ [newSpan])).record key
    (span ▸ List.mem_append_right _ List.mem_cons_self)
    (rooted.hangs_new new isBranch span parent) starts (fun call finishes => by
      rw [finishes] at begins
      exact begins.elim)
  have link : (newSpan, below.getLast?) ∈ sessionLinks (rows ++ [row]) row.sessionId := by
    rw [← span, ← parent]
    exact mem_sessionLinks.mpr ⟨row, List.mem_append_right _ List.mem_cons_self, rfl, rfl⟩
  refine recorded.setStack (Branch.concat (isBranch.mono ?_) link)
  rw [sessionLinks_concat]
  exact List.subset_append_left _ _

/-- The start of the call that ends is stored with the parent its end gets. -/
theorem Rooted.finish_parent {pre : ProcessedEvent κ} {below : List String}
    (rooted : Rooted drawns rows context)
    (found : context.spanIdByToolUseId.lookup call = some spanId)
    (top : context.stack sessionId = below ++ [spanId]) (held : pre ∈ rows)
    (session : pre.sessionId = sessionId) (starts : pre.spanEvent = .startCall call) :
    pre.parentSpanId = below.getLast? := by
  have isBranch := rooted.branches sessionId
  rw [top] at isBranch
  have link := isBranch.last
  obtain ⟨opened, held', starts', span⟩ := rooted.started call spanId found
  obtain ⟨stacked, held'', session'', span''⟩ := mem_sessionLinks.mp link
  have sameSession : opened.sessionId = sessionId := by
    rw [← session'']
    exact rooted.apart opened held' stacked held'' (span.trans (congrArg Prod.fst span'').symm)
  -- The keys are unique, so the call has one start in its session.
  have same : pre = opened := by
    refine List.inj_on_of_nodup_map rooted.keys held held' ?_
    obtain ⟨hook, tool⟩ := EventIdentity.of_startCall starts
    obtain ⟨hook', tool'⟩ := EventIdentity.of_startCall starts'
    simp only [EventIdentity.dedupKey, session, sameSession, hook, hook', tool, tool']
  subst same
  refine (rooted.forest sessionId).unique ?_ link
  exact mem_sessionLinks.mpr ⟨pre, held, session, by rw [span]⟩

/-- An event is given a span and its row is stored. -/
theorem Rooted.store (rooted : Rooted drawns rows context) (new : newSpan ∉ drawns)
    (key : row.dedupKey ∉ rows.map (·.dedupKey))
    (link : ⟨row.spanId, row.parentSpanId⟩ =
      (assignSpanForEvent context row.toEventIdentity newSpan).2)
    (order : InOrder rows context row.toEventIdentity) :
    Rooted (drawns ++ [newSpan]) (rows ++ [row])
      (assignSpanForEvent context row.toEventIdentity newSpan).1 := by
  have wider := rooted.mono (List.subset_append_left _ [newSpan])
  have drawnNow : newSpan ∈ drawns ++ [newSpan] :=
    List.mem_append_right _ List.mem_cons_self
  have branch := rooted.branches row.sessionId
  have known : ∀ {span}, span ∈ context.stack row.sessionId → span ∈ drawns ++ [newSpan] := by
    intro span member
    obtain ⟨other, held, _, rfl⟩ :=
      mem_nodes_sessionLinks.mp (rooted.mem_nodes_of_mem_stack member)
    exact List.mem_append_left _ (rooted.drawn other held)
  unfold assignSpanForEvent at link ⊢
  cases event : row.spanEvent with
  | startCall call =>
      have unfinished : Unseen rows row.sessionId (.finishCall call) := by
        rw [InOrder, event] at order
        exact order
      simp only [event, SpanContext.push, SpanLink.mk.injEq] at link
      obtain ⟨span, parent⟩ := link
      have begun := rooted.begin new key branch span parent
        (fun other starts => by cases event.symm.trans starts; exact unfinished)
        (by rw [event]; trivial)
      have opened := begun.insertCall (List.mem_append_right _ List.mem_cons_self) event
      rw [span] at opened
      exact opened
  | finishCall call =>
      simp only [event, SpanContext.finishCall, rooted.finish_top new event order,
        SpanLink.mk.injEq] at link ⊢
      obtain ⟨span, parent⟩ := link
      refine Rooted.dropLast (Rooted.eraseCall ?_ call) row.sessionId
      have unstarted : ∀ other, row.spanEvent ≠ .startCall other := by
        rw [event]
        rintro other ⟨⟩
      rw [InOrder, event] at order
      cases found : context.spanIdByToolUseId.lookup call with
      | none =>
          simp only [found] at order
          rw [found, Option.getD_none] at span
          have unseen := order.resolve_left key
          refine wider.record key (span ▸ drawnNow)
            (rooted.hangs_new new (branch.of_shorter (List.dropLast_prefix _)) span parent)
            (fun other starts => absurd starts (unstarted other)) ?_
          intro other finishes pre held session starts
          cases event.symm.trans finishes
          exact absurd starts (unseen pre held session)
      | some spanId =>
          simp only [found] at order
          rw [found, Option.getD_some] at span
          obtain ⟨below, top⟩ := List.getLast?_eq_some_iff.mp order
          rw [top, List.dropLast_concat] at parent
          refine wider.record key (known ?_)
            (rooted.hangs_top (top.trans (by rw [span])) parent)
            (fun other starts => absurd starts (unstarted other)) ?_
          · rw [top, span]
            exact List.mem_append_right _ List.mem_cons_self
          · intro other finishes pre held session starts
            cases event.symm.trans finishes
            rw [parent]
            exact rooted.finish_parent found top held session starts
  | startSubagent =>
      simp only [event, SpanContext.push, SpanLink.mk.injEq] at link
      obtain ⟨span, parent⟩ := link
      exact rooted.begin new key branch span parent
        (fun other starts => by cases event.symm.trans starts) (by rw [event]; trivial)
  | stopSubagent =>
      simp only [event, SpanContext.pop, SpanLink.mk.injEq] at link
      obtain ⟨span, parent⟩ := link
      refine Rooted.dropLast ?_ row.sessionId
      have hangs : row.spanId ∈ drawns ++ [newSpan] ∧ Hangs rows row := by
        cases top : (context.stack row.sessionId).getLast? with
        | none =>
            rw [top, Option.getD_none] at span
            exact ⟨span ▸ drawnNow,
              rooted.hangs_new new (branch.of_shorter (List.dropLast_prefix _)) span parent⟩
        | some spanId =>
            rw [top, Option.getD_some] at span
            obtain ⟨below, stack⟩ := List.getLast?_eq_some_iff.mp top
            rw [stack, List.dropLast_concat] at parent
            refine ⟨known (span ▸ List.mem_of_getLast? top), ?_⟩
            exact rooted.hangs_top (stack.trans (by rw [span])) parent
      exact wider.record key hangs.1 hangs.2 (fun other starts => by cases event.symm.trans starts)
        (fun other finishes => by cases event.symm.trans finishes)
  | startSession =>
      simp only [event, SpanLink.mk.injEq] at link
      obtain ⟨span, parent⟩ := link
      exact rooted.begin new key .nil span parent
        (fun other starts => by cases event.symm.trans starts) (by rw [event]; trivial)
  | standalone =>
      simp only [event, SpanLink.mk.injEq] at link
      obtain ⟨span, parent⟩ := link
      exact wider.record key (span ▸ drawnNow) (rooted.hangs_new new branch span parent)
        (fun other starts => by cases event.symm.trans starts)
        (fun other finishes => by cases event.symm.trans finishes)

/-! ## Runs -/

/-- What a run keeps: the rows are rooted, and those committed came first. -/
structure Tracked (past : List (Action ε)) (state : State κ) : Prop where
  rooted : Rooted (drawnSpans past) (storedEvents state.events) state.spans
  durable : storedEvents state.committed.events <+: storedEvents state.events

variable {state next final : State κ} {past actions : List (Action ε)}

theorem Tracked.initial : Tracked ([] : List (Action ε)) (State.initial : State κ) :=
  ⟨.initial, List.prefix_rfl⟩

theorem drawnSpans_concat (past : List (Action ε)) (action : Action ε) :
    drawnSpans (past ++ [action]) = drawnSpans past ++ action.drawn.toList := by
  rw [drawnSpans, List.filterMap_append, List.filterMap_cons]
  cases action.drawn <;> rfl

/-- Draining a file keeps the rows rooted when the event in it is orderly. -/
theorem Tracked.drained {path : SpoolPath} {text : String} {input : DrainInput ε}
    (tracked : Tracked past state) (drained : Drained flusher state path text input next)
    (orderly : ∀ raw ∈ flusher.eventOf text, OrderlyEvent flusher past state input raw) :
    Tracked (past ++ [.drain input]) next := by
  obtain ⟨rooted, durable⟩ := tracked
  have draws : drawnSpans (past ++ [.drain input]) = drawnSpans past ++ [input.spanId] :=
    drawnSpans_concat past (.drain input)
  have wider : drawnSpans past ⊆ drawnSpans (past ++ [.drain input]) := by
    rw [draws]
    exact List.subset_append_left _ _
  cases drained with
  | untouched events committed spans spool =>
      refine ⟨?_, ?_⟩
      · rw [events, spans]
        exact rooted.mono wider
      · rw [committed, events]
        exact durable
  | unstored raw traceId event traced failed events committed spans spool =>
      obtain ⟨new, storable, order⟩ := orderly raw event (by rw [traced]; rfl)
      refine ⟨?_, ?_⟩
      · rw [events, spans]
        refine (rooted.assign new (fun begins => ?_) order).mono wider
        obtain ⟨_, executed, computed⟩ := storable begins
        rcases failed with ⟨raised, raises⟩ | notExecuted
        · rw [raises] at computed
          cases computed
        · exact notExecuted executed
      · rw [committed, events]
        exact durable
  | stored raw traceId columns event traced computed spans events spool =>
      obtain ⟨new, storable, order⟩ := orderly raw event (by rw [traced]; rfl)
      have identity : (flusher.processed raw traceId
          (assignSpanForEvent state.spans (.of flusher.repr raw) input.spanId).2 input.now
          columns).toEventIdentity = .of flusher.repr raw := rfl
      have link : ∀ given, (⟨(flusher.processed raw traceId given input.now columns).spanId,
          (flusher.processed raw traceId given input.now columns).parentSpanId⟩ : SpanLink) =
            given := fun _ => rfl
      specialize link (assignSpanForEvent state.spans (.of flusher.repr raw) input.spanId).2
      generalize flusher.processed raw traceId _ input.now columns = row at events identity link
      rw [← identity] at storable order spans link
      have grown : storedEvents state.events <+: storedEvents next.events := by
        rw [events]
        exact storedEvents_prefix_insertEvent _ _
      refine ⟨?_, ?_⟩
      · by_cases held : row.dedupKey ∈ rowKeys state.events
        · rw [events, spans, storedEvents_insertEvent_of_mem held]
          refine (rooted.assign new (fun begins => ?_) order).mono wider
          have unknown := (storable begins).1
          rw [← identity] at unknown
          exact unknown held
        · rw [events, spans, storedEvents_insertEvent_of_notMem held, draws]
          rw [rowKeys_eq] at held
          exact rooted.store new held link order
      · rcases spool with ⟨_, same | committed⟩ | ⟨_, committed⟩
        · rw [same]
          exact durable.trans grown
        · rw [committed]
        · rw [committed]

/-- Every orderly step keeps the rows rooted. -/
theorem Tracked.step {action : Action ε} (tracked : Tracked past state)
    (orderly : Orderly flusher past state action)
    (taken : Telemetry.step flusher state action = some next) :
    Tracked (past ++ [action]) next := by
  unfold Telemetry.step at taken
  have idle : drawnSpans past ⊆ drawnSpans (past ++ [action]) := by
    rw [drawnSpans_concat]
    exact List.subset_append_left _ _
  cases action with
  | spool path text =>
      simp only [Option.ite_none_left_eq_some, Option.some.injEq] at taken
      obtain ⟨_, rfl⟩ := taken
      exact ⟨tracked.rooted.mono idle, tracked.durable⟩
  | list order =>
      simp only [Option.ite_none_right_eq_some, Option.some.injEq] at taken
      obtain ⟨_, rfl⟩ := taken
      exact ⟨tracked.rooted.mono idle, tracked.durable⟩
  | drain input =>
      cases pass : state.pass with
      | nil =>
          rw [pass] at taken
          cases taken
      | cons path rest =>
          simp only [pass] at taken
          cases found : state.spool.lookup path with
          | none =>
              rw [found] at taken
              cases taken
              exact ⟨tracked.rooted.mono idle, tracked.durable⟩
          | some text =>
              rw [found] at taken
              cases taken
              have started : Tracked past { state with pass := rest } :=
                ⟨tracked.rooted, tracked.durable⟩
              refine started.drained (drainFile_drained flusher _ path text input) ?_
              exact orderly path (by rw [pass]; rfl) text found
  | restart =>
      cases taken
      exact ⟨(tracked.rooted.of_shorter tracked.durable).mono idle, List.prefix_rfl⟩

/-- **Trace trees.** In every run whose events come in order, the stored rows of
every session form a tree, those seen on the connection and those committed. -/
theorem trace_tree_of_orderly (sessionId : String)
    (orderly : Meets (Telemetry.step flusher) (Orderly flusher) [] State.initial actions)
    (run : execute (Telemetry.step flusher) State.initial actions = some final) :
    TraceTree (storedEvents final.events) sessionId ∧
      TraceTree (storedEvents final.committed.events) sessionId := by
  have tracked : Tracked actions final :=
    execute_induction (motive := fun past state => Tracked past state)
      .initial (fun _ _ _ _ _ kept inOrder taken => kept.step inOrder taken) orderly run
  exact ⟨tracked.rooted.traceTree sessionId,
    (tracked.rooted.of_shorter tracked.durable).traceTree sessionId⟩

/-! ## Nested and overlapping calls -/

instance (flusher : Flusher ε κ) (state : State κ) (raw : HookEvent) (input : DrainInput ε) :
    Decidable (Storable flusher state raw input) :=
  inferInstanceAs (Decidable (_ ∧ _ ∧ _))

instance (rows : List (ProcessedEvent κ)) (sessionId : String) (event : SpanEvent) :
    Decidable (Unseen rows sessionId event) :=
  inferInstanceAs (Decidable (∀ row ∈ rows, row.sessionId = sessionId → _))

instance : DecidablePred SpanEvent.Begins
  | .startCall _ | .startSubagent | .startSession => .isTrue trivial
  | .finishCall _ | .stopSubagent | .standalone => .isFalse id

instance (rows : List (ProcessedEvent κ)) (context : SpanContext) (identity : EventIdentity) :
    Decidable (InOrder rows context identity) :=
  match event : identity.spanEvent with
  | .startCall call =>
      decidable_of_iff (Unseen rows identity.sessionId (.finishCall call)) (by
        rw [InOrder, event])
  | .finishCall call =>
      match found : context.spanIdByToolUseId.lookup call with
      | some spanId =>
          decidable_of_iff ((context.stack identity.sessionId).getLast? = some spanId) (by
            simp only [InOrder, event, found])
      | none =>
          decidable_of_iff (identity.dedupKey ∈ rows.map (·.dedupKey) ∨
            Unseen rows identity.sessionId (.startCall call)) (by
              simp only [InOrder, event, found])
  | .startSubagent | .startSession | .stopSubagent | .standalone =>
      .isTrue (by simp only [InOrder, event])

instance (flusher : Flusher ε κ) (past : List (Action ε)) (state : State κ)
    (input : DrainInput ε) : DecidablePred (OrderlyEvent flusher past state input) :=
  fun _ => inferInstanceAs (Decidable (_ → _ ∧ (_ → _) ∧ _))

instance (flusher : Flusher ε κ) (past : List (Action ε)) (state : State κ) :
    DecidablePred (Orderly flusher past state)
  | .drain input =>
      inferInstanceAs (Decidable (∀ path ∈ state.pass.head?, ∀ text ∈ state.spool.lookup path,
        ∀ raw ∈ flusher.eventOf text, OrderlyEvent flusher past state input raw))
  | .spool _ _ | .list _ | .restart => .isTrue trivial

/-- An event of the sample session. -/
def toolEvent (hook call timestamp : String) : List (String × String) :=
  [("session_id", "s1"), ("hook_event_name", hook), ("tool_use_id", call),
    ("timestamp", timestamp)]

/-- A call inside another. -/
def nestedCalls : List (List (String × String)) :=
  [toolEvent "PreToolUse" "a" "1", toolEvent "PreToolUse" "b" "2",
    toolEvent "PostToolUse" "b" "3", toolEvent "PostToolUse" "a" "4"]

/-- Nested calls leave a tree. -/
theorem trace_tree_of_orderly_nested :
    ∃ final, execute (step (sampleFlusher nestedCalls)) State.initial (sampleRun nestedCalls) =
        some final ∧ (storedEvents final.committed.events).length = 4 ∧
      TraceTree (storedEvents final.committed.events) "s1" := by
  let flusher := sampleFlusher nestedCalls
  have checks :
      (execute (step flusher) State.initial (sampleRun nestedCalls)).map
          (fun final => (storedEvents final.committed.events).length) = some 4 ∧
        Meets (step flusher) (Orderly flusher) [] State.initial (sampleRun nestedCalls) := by
    decide +kernel
  obtain ⟨ran, orderly⟩ := checks
  obtain ⟨final, run, stored⟩ := Option.map_eq_some_iff.mp ran
  exact ⟨final, run, stored, (trace_tree_of_orderly "s1" orderly run).2⟩

/-- Two calls that overlap. -/
def overlappingCalls : List (List (String × String)) :=
  [toolEvent "PreToolUse" "a" "1", toolEvent "PreToolUse" "b" "2",
    toolEvent "PostToolUse" "a" "3", toolEvent "PostToolUse" "b" "4"]

/-- Overlapping calls leave a cycle: each of the two spans hangs under the other. -/
theorem overlapping_calls_cyclic :
    ¬ ∀ (actions : List (Action Unit)) (final : State (Option String)) (sessionId : String),
      execute (step (sampleFlusher overlappingCalls)) State.initial actions = some final →
      (drawnSpans actions).Nodup →
      TraceTree (storedEvents final.committed.events) sessionId := by
  intro always
  obtain ⟨final, run, links⟩ := Option.map_eq_some_iff.mp
    (show (execute (step (sampleFlusher overlappingCalls)) State.initial
        (sampleRun overlappingCalls)).map
      (fun final => sessionLinks (storedEvents final.committed.events) "s1") =
        some [("1.json", none), ("2.json", some "1.json"), ("1.json", some "2.json"),
          ("2.json", none)] by decide +kernel)
  have tree := always _ final "s1" run (by decide +kernel)
  have first : ParentSpan (storedEvents final.committed.events) "s1" "1.json" "2.json" := by
    rw [← parent_sessionLinks, links]
    simp [Parent]
  have second : ParentSpan (storedEvents final.committed.events) "s1" "2.json" "1.json" := by
    rw [← parent_sessionLinks, links]
    simp [Parent]
  exact tree.acyclic "1.json" (.tail (.single first) second)

end Panakoes.Telemetry
