import Panakoes.TranscriberStream.WsPublisher

/-! # A gone connection is respected

Over every run of the publisher: posts do not overlap, after the first 410 nothing is posted and
every call that has not ended returns False, and the callback is called once. A call does not wait
for ever where the posts are answered and the callback goes on: its place in the queue of the lock
falls.
-/

namespace Panakoes.TranscriberStream.Publisher

open Transition

variable {hasCallback : Bool} {state after : State} {action : Action} {send : ℕ}

/-- A post of the run has ended with a 410. -/
def Refused (past : List Action) : Prop :=
  ∃ send callback, Action.answer send (.gone callback) ∈ past

/-- The call has been made and has ended. -/
def State.EndedAt (state : State) (send : ℕ) : Prop :=
  ∃ phase, state.sends[send]? = some phase ∧ phase.ended = true

/-! ## After the first 410 -/

/-- Nothing is posted any more, and a call that ends returns False. -/
structure Silent (before after : State) : Prop where
  gone : after.gone = true
  posted : after.posted = before.posted
  refused : ∀ (send : ℕ) (phase : Phase), after.sends[send]? = some phase → phase.ended = true →
    before.sends[send]? = some phase ∨ phase = .returned false

theorem Silent.refl (gone : state.gone = true) : Silent state state :=
  ⟨gone, rfl, fun _ _ found _ => Or.inl found⟩

theorem Silent.trans {middle : State} (first : Silent state middle)
    (second : Silent middle after) : Silent state after where
  gone := second.gone
  posted := second.posted.trans first.posted
  refused send phase found ended :=
    (second.refused send phase found ended).elim
      (fun early => first.refused send phase early ended) Or.inr

theorem getElem?_set_cases {sends : List Phase} {new phase : Phase} {other : ℕ}
    (found : (sends.set send new)[other]? = some phase) :
    sends[other]? = some phase ∨ phase = new := by
  rw [List.getElem?_set] at found
  split at found
  · split at found
    · exact Or.inr (Option.some.inj found).symm
    · cases found
  · exact Or.inl found

theorem getElem?_concat_cases {sends : List Phase} {new phase : Phase} {other : ℕ}
    (found : (sends ++ [new])[other]? = some phase) :
    sends[other]? = some phase ∨ phase = new := by
  rcases lt_or_ge other sends.length with inside | outside
  · exact Or.inl ((List.getElem?_append_left inside).symm.trans found)
  · rw [List.getElem?_append_right outside, List.getElem?_singleton] at found
    split at found
    · exact Or.inr (Option.some.inj found).symm
    · cases found

theorem start_of_gone (gone : state.gone = true) (prepares : Bool) :
    state.start prepares = { state with sends := state.sends ++ [.returned false] } :=
  if_pos gone

/-- A step in a publisher whose connection is gone. -/
theorem Consistent.silent (consistent : Consistent hasCallback state) (gone : state.gone = true)
    (taken : Publisher.step hasCallback state action = some after) : Silent state after := by
  rcases step_cases taken with ⟨prepares, -, rfl⟩ | ⟨first, rest, -, waiters, rfl⟩ |
    ⟨send, answer, -, found, rfl⟩ | ⟨send, awaited, left, -, found, rfl⟩
  · rw [start_of_gone gone]
    exact ⟨gone, rfl, fun _ _ found _ => getElem?_concat_cases found⟩
  · have entered : State.enter { state with waiters := rest } first =
        ({ state with waiters := rest, locked := true } : State).finish first
          (.returned false) := if_pos gone
    rw [entered]
    exact ⟨gone, rfl, fun _ _ found _ => getElem?_set_cases found⟩
  · have posts := weight_le_total found Phase.posts
    rw [consistent.settled gone] at posts
    exact absurd posts (Nat.not_succ_le_zero 0)
  · cases left with
    | nil => exact ⟨gone, rfl, fun _ _ found _ => getElem?_set_cases found⟩
    | cons segment left =>
        have unended : ∀ {sends : List Phase} {awaits : Option ℕ} {other : ℕ} {phase : Phase},
            (sends.set send (.inCallback awaits left))[other]? = some phase →
              phase.ended = true → sends[other]? = some phase := by
          intro sends awaits other phase found ended
          refine (getElem?_set_cases found).resolve_right ?_
          rintro rfl
          cases ended
        cases segment with
        | suspend => exact ⟨gone, rfl, fun _ _ found ended => Or.inl (unended found ended)⟩
        | send prepares =>
            unfold State.proceed
            dsimp only
            rw [start_of_gone gone]
            exact ⟨gone, rfl, fun _ _ found ended => getElem?_concat_cases (unended found ended)⟩

/-- What follows the first 410. -/
theorem Consistent.silent_of_execute (consistent : Consistent hasCallback state)
    (gone : state.gone = true) {later : List Action}
    (run : execute (Publisher.step hasCallback) state later = some after) :
    Silent state after := by
  induction later generalizing state with
  | nil =>
      cases run
      exact Silent.refl gone
  | cons action rest ih =>
      obtain ⟨next, taken, rest⟩ := Option.bind_eq_some_iff.mp run
      have silent := consistent.silent gone taken
      exact silent.trans (ih (consistent.step taken) silent.gone rest)

theorem gone_enter (state : State) (send : ℕ) : (state.enter send).gone = state.gone := by
  unfold State.enter
  split <;> rfl

theorem gone_start (state : State) (prepares : Bool) :
    (state.start prepares).gone = state.gone := by
  unfold State.start
  dsimp only
  split
  · rfl
  · split
    · rfl
    · split
      · exact gone_enter _ _
      · rfl

/-- Only a 410 marks the connection as gone, and every 410 does. -/
theorem gone_step (taken : step hasCallback state action = some after) :
    after.gone = true ↔
      state.gone = true ∨ ∃ send callback, action = .answer send (.gone callback) := by
  rcases step_cases taken with ⟨prepares, rfl, rfl⟩ | ⟨first, rest, rfl, waiters, rfl⟩ |
    ⟨send, answer, rfl, found, rfl⟩ | ⟨send, awaited, left, rfl, found, rfl⟩
  · rw [gone_start]
    exact (or_iff_left fun ⟨_, _, same⟩ => Action.noConfusion same).symm
  · rw [gone_enter]
    exact (or_iff_left fun ⟨_, _, same⟩ => Action.noConfusion same).symm
  · cases answer with
    | accepted | failed =>
        refine (or_iff_left ?_).symm
        rintro ⟨other, callback, same⟩
        cases same
    | gone callback =>
        refine iff_of_true ?_ (Or.inr ⟨send, callback, rfl⟩)
        unfold State.answer
        dsimp only
        split
        · rename_i gone
          exact gone
        · split <;> rfl
  · have still : (state.proceed send left).gone = state.gone := by
      cases left with
      | nil => rfl
      | cons segment left =>
          cases segment with
          | suspend => rfl
          | send prepares => exact gone_start state prepares
    rw [still]
    exact (or_iff_left fun ⟨_, _, same⟩ => Action.noConfusion same).symm

/-- Where a run leads, the connection is gone exactly if a post has ended with a 410. -/
theorem consistent_of_execute {past : List Action}
    (run : execute (step hasCallback) .initial past = some state) :
    Consistent hasCallback state ∧ (state.gone = true ↔ Refused past) := by
  have meets : Meets (step hasCallback) (fun _ _ _ => True) [] .initial past := Meets.trivial
  refine execute_induction
    (motive := fun past state => Consistent hasCallback state ∧ (state.gone = true ↔ Refused past))
    ⟨Consistent.initial, ?_⟩ ?_ meets run
  · exact iff_of_false Bool.false_ne_true fun ⟨_, _, member⟩ => List.not_mem_nil member
  · intro past before action after _ ⟨consistent, marked⟩ _ taken
    refine ⟨consistent.step taken, ?_⟩
    rw [gone_step taken, marked]
    unfold Refused
    simp only [List.mem_append, List.mem_singleton, exists_or, eq_comm]

/-! ## No call waits for ever -/

/-- Where nobody holds the lock, a call that has not ended waits. -/
theorem Consistent.waiting_of_free (consistent : Consistent hasCallback state)
    (free : state.locked = false) (made : send < state.sends.length)
    (unended : ¬ state.EndedAt send) : state.sends[send]? = some .waiting := by
  have held := consistent.held
  rw [if_neg (by simp [free])] at held
  have found : state.sends[send]? = some state.sends[send] := List.getElem?_eq_getElem made
  have unheld := idle held found
  cases phase : state.sends[send] with
  | waiting => rw [found, phase]
  | posting | inCallback _ _ =>
      rw [phase] at unheld
      cases unheld
  | returned _ | raised => exact absurd ⟨_, found, by rw [phase]; rfl⟩ unended

/-- As long as a call has not ended, the event loop can go on. -/
theorem Consistent.enabled (consistent : Consistent hasCallback state)
    (made : send < state.sends.length) (unended : ¬ state.EndedAt send) :
    ∃ action : Action, action.Internal ∧
      (Publisher.step hasCallback state action).isSome = true := by
  cases locked : state.locked with
  | false =>
      have queued := (consistent.queued send).mpr (consistent.waiting_of_free locked made unended)
      have front := consistent.front
      cases waiters : state.waiters with
      | nil =>
          rw [waiters] at queued
          exact absurd queued List.not_mem_nil
      | cons head rest =>
          have woken : head.2 = !state.locked := front head (by rw [waiters]; rfl)
          obtain ⟨first, done⟩ := head
          rw [locked] at woken
          cases woken
          refine ⟨.resume, True.intro, ?_⟩
          unfold Publisher.step
          dsimp only
          rw [waiters]
          rfl
  | true =>
      have held := consistent.held
      rw [if_pos locked] at held
      have some : ¬ ∀ weight ∈ state.sends.map Phase.busy, weight = 0 := fun none =>
        absurd (held.symm.trans (List.sum_eq_zero none)) Nat.one_ne_zero
      simp only [List.mem_map, forall_exists_index, and_imp, forall_apply_eq_imp_iff₂,
        not_forall] at some
      obtain ⟨phase, member, busy⟩ := some
      obtain ⟨holder, found⟩ := List.mem_iff_getElem?.mp member
      cases phase with
      | waiting | returned _ | raised => exact absurd rfl busy
      | posting =>
          refine ⟨.answer holder .accepted, True.intro, ?_⟩
          unfold Publisher.step
          dsimp only
          rw [found]
          rfl
      | inCallback awaited left =>
          refine ⟨.callback holder, True.intro, ?_⟩
          have ended : (awaited.all fun nested =>
              (state.sends[nested]?.map Phase.ended).getD false) = true := by
            cases awaited with
            | none => rfl
            | some nested =>
                have returned := (consistent.calling holder _ left found).2 nested rfl
                exact congrArg (fun phase => (Option.map Phase.ended phase).getD false) returned
          unfold Publisher.step
          dsimp only
          rw [found]
          dsimp only
          rw [if_pos ended]
          rfl

/-- The place of a call in the queue of the lock, in halves. -/
def place (queue : List ℕ) (send : ℕ) : ℕ :=
  if send ∈ queue then 2 * (queue.idxOf send + 1) else 0

/-- A call that comes later does not move it. -/
theorem place_concat {queue : List ℕ} {later : ℕ} (apart : send ≠ later) :
    place (queue ++ [later]) send = place queue send := by
  unfold place
  by_cases member : send ∈ queue
  · rw [if_pos member, if_pos (List.mem_append_left _ member), List.idxOf_append_of_mem member]
  · rw [if_neg member, if_neg]
    simp only [List.mem_append, List.mem_singleton, not_or]
    exact ⟨member, apart⟩

/-- It moves up where the first of the queue is served. -/
theorem place_tail {first : ℕ} {rest : List ℕ} (distinct : (first :: rest).Nodup)
    (queued : send ∈ first :: rest) : place rest send + 2 = place (first :: rest) send := by
  unfold place
  rw [if_pos queued]
  by_cases same : first = send
  · subst same
    rw [if_neg (List.nodup_cons.mp distinct).1, List.idxOf_cons_self]
  · have later : send ∈ rest := (List.mem_cons.mp queued).resolve_left (Ne.symm same)
    rw [if_pos later, List.idxOf_cons_ne _ same]
    omega

/-- What falls while a call has not ended: first its place and the post in flight, then what is left
of the callback. -/
def State.rank (send : ℕ) (state : State) : ℕ ×ₗ ℕ :=
  toLex (place (state.waiters.map Prod.fst) send + state.total Phase.posts, state.total Phase.left)

theorem total_concat {sends : List Phase} {phase : Phase} {weight : Phase → ℕ}
    (none : weight phase = 0) :
    ((sends ++ [phase]).map weight).sum = (sends.map weight).sum := by
  rw [List.map_append, List.sum_append, List.map_singleton, List.sum_singleton, none,
    Nat.add_zero]

/-- A new call does not move a call that has not ended. -/
theorem Consistent.rank_start (consistent : Consistent hasCallback state)
    (made : send < state.sends.length) (unended : ¬ state.EndedAt send) (prepares : Bool) :
    (state.start prepares).rank send = state.rank send := by
  have ended : ∀ phase : Phase, phase.ended = true →
      ({ state with sends := state.sends ++ [phase] } : State).rank send = state.rank send := by
    intro phase ended
    have unposted : phase.posts = 0 :=
      Nat.eq_zero_of_le_zero (Phase.busy_of_ended ended ▸ posts_le_busy phase)
    have nothing : phase.left = 0 := by
      cases phase <;> first | rfl | cases ended
    unfold State.rank State.total
    dsimp only
    rw [total_concat unposted, total_concat nothing]
  unfold State.start
  dsimp only
  split
  · exact ended _ rfl
  · split
    · exact ended _ rfl
    · split
      · rename_i unlocked
        have waits := consistent.waiting_of_free unlocked.1 made unended
        have queued := (consistent.queued send).mpr waits
        rw [unlocked.2] at queued
        exact absurd queued List.not_mem_nil
      · unfold State.rank State.total
        dsimp only
        rw [total_concat rfl, total_concat rfl, List.map_append, List.map_singleton,
          place_concat made.ne]

/-- The first waiter of the lock is served. -/
theorem Consistent.rank_resume (consistent : Consistent hasCallback state)
    {first : ℕ} {rest : List (ℕ × Bool)} (waiters : state.waiters = (first, true) :: rest)
    (made : send < state.sends.length) (unended : ¬ state.EndedAt send) :
    (State.enter { state with waiters := rest } first).rank send < state.rank send := by
  obtain ⟨free, -, waits, -⟩ := consistent.free_of_woken waiters
  have queued := (consistent.queued send).mpr (consistent.waiting_of_free free made unended)
  have distinct := consistent.distinct
  rw [waiters, List.map_cons] at queued distinct
  dsimp only at queued distinct
  have nearer := place_tail distinct queued
  have moved := fun phase : Phase => sum_map_set waits phase Phase.posts
  have unposted : Phase.waiting.posts = 0 := rfl
  refine Prod.Lex.left _ _ ?_
  unfold State.enter State.total
  rw [waiters, List.map_cons]
  dsimp only
  split
  · have ended := moved (.returned false)
    have quiet : (Phase.returned false).posts = 0 := rfl
    unfold State.finish
    dsimp only
    rw [map_fst_wakeUpFirst]
    omega
  · have posting := moved .posting
    have one : Phase.posting.posts = 1 := rfl
    dsimp only
    omega

/-- A post ends. -/
theorem rank_answer (found : state.sends[send]? = some .posting) (answer : Answer) (other : ℕ) :
    (state.answer hasCallback send answer).rank other < state.rank other := by
  have less : ∀ (phase : Phase) (next : State), phase.posts = 0 →
      next.sends = state.sends.set send phase →
        next.waiters.map Prod.fst = state.waiters.map Prod.fst →
          next.rank other < state.rank other := by
    intro phase next unposted sends waiters
    have moved := sum_map_set found phase Phase.posts
    have one : Phase.posting.posts = 1 := rfl
    refine Prod.Lex.left _ _ ?_
    unfold State.total
    rw [waiters, sends]
    omega
  have finished : ∀ (gone : Bool) (phase : Phase), phase.posts = 0 →
      ({ state with gone }.finish send phase).rank other < state.rank other :=
    fun gone phase unposted => less phase _ unposted rfl (map_fst_wakeUpFirst _)
  cases answer with
  | accepted => exact finished _ _ rfl
  | failed => exact finished _ _ rfl
  | gone callback =>
      unfold State.answer
      dsimp only
      split
      · exact finished _ _ rfl
      · split
        · exact less (.inCallback none callback) _ rfl rfl rfl
        · exact finished _ _ rfl

/-- The callback goes on. -/
theorem Consistent.rank_proceed (consistent : Consistent hasCallback state) {awaited : Option ℕ}
    {left : List Segment}
    (found : state.sends[send]? = some (.inCallback awaited left)) (other : ℕ) :
    (state.proceed send left).rank other < state.rank other := by
  have gone := (consistent.calling send awaited left found).1
  have less : ∀ (phase : Phase) (next : State), phase.posts = 0 → phase.left ≤ left.length →
      (∀ weight : Phase → ℕ, weight (.returned false) = 0 →
        next.total weight = ((state.sends.set send phase).map weight).sum) →
        next.waiters.map Prod.fst = state.waiters.map Prod.fst →
          next.rank other < state.rank other := by
    intro phase next unposted shorter total waiters
    have posts := sum_map_set found phase Phase.posts
    have lefts := sum_map_set found phase Phase.left
    have none : (Phase.inCallback awaited left).posts = 0 := rfl
    have whole : (Phase.inCallback awaited left).left = left.length + 1 := rfl
    have same : next.total Phase.posts = state.total Phase.posts := by
      rw [total _ rfl]
      unfold State.total
      omega
    unfold State.rank
    rw [waiters, same]
    refine Prod.Lex.right _ ?_
    rw [total _ rfl]
    unfold State.total
    omega
  have inside : send < state.sends.length := (List.getElem?_eq_some_iff.mp found).1
  cases left with
  | nil => exact less (.returned false) _ rfl (le_refl _) (fun _ _ => rfl) (map_fst_wakeUpFirst _)
  | cons segment left =>
      cases segment with
      | suspend => exact less (.inCallback none left) _ rfl (le_refl _) (fun _ _ => rfl) rfl
      | send prepares =>
          unfold State.proceed
          dsimp only
          rw [start_of_gone gone]
          refine less (.inCallback (some state.sends.length) left) _ rfl (le_refl _) ?_ rfl
          intro weight none
          unfold State.total
          dsimp only
          rw [List.set_append_left _ _ inside, total_concat none]

/-- No call is lost. -/
theorem length_le_of_step (taken : step hasCallback state action = some after) :
    state.sends.length ≤ after.sends.length := by
  have entered : ∀ (state : State) (send : ℕ),
      (state.enter send).sends.length = state.sends.length := by
    intro state send
    unfold State.enter
    split <;> exact List.length_set
  have started : ∀ prepares, (state.start prepares).sends.length = state.sends.length + 1 := by
    intro prepares
    unfold State.start
    dsimp only
    split
    · exact List.length_append
    · split
      · exact List.length_append
      · split
        · rw [entered]
          exact List.length_append
        · exact List.length_append
  rcases step_cases taken with ⟨prepares, rfl, rfl⟩ | ⟨first, rest, rfl, waiters, rfl⟩ |
    ⟨send, answer, rfl, found, rfl⟩ | ⟨send, awaited, left, rfl, found, rfl⟩
  · rw [started]
    exact Nat.le_succ _
  · rw [entered]
  · have same : (state.answer hasCallback send answer).sends.length = state.sends.length := by
      cases answer with
      | accepted => exact List.length_set
      | failed => exact List.length_set
      | gone callback =>
          unfold State.answer
          dsimp only
          split
          · exact List.length_set
          · split <;> exact List.length_set
    exact same.ge
  · cases left with
    | nil => exact List.length_set.ge
    | cons segment left =>
        cases segment with
        | suspend => exact List.length_set.ge
        | send prepares =>
            have length : (state.proceed send (.send prepares :: left)).sends.length =
                state.sends.length + 1 := List.length_set.trans (started prepares)
            rw [length]
            exact Nat.le_succ _

/-- Every call that is made has ended at some time. -/
theorem eventually_ended (run : Endless (step hasCallback) .initial)
    (fair : run.Fair Action.Internal) {n : ℕ} (made : send < (run.states n).sends.length) :
    ∃ m, n ≤ m ∧ (run.states m).EndedAt send := by
  have consistent : ∀ n, Consistent hasCallback (run.states n) :=
    run.invariant Consistent.initial fun _ _ _ held taken => held.step taken
  have kept : ∀ before action after,
      Consistent hasCallback before ∧ send < before.sends.length →
        step hasCallback before action = some after →
          Consistent hasCallback after ∧ send < after.sends.length :=
    fun before action after ⟨held, made⟩ taken =>
      ⟨held.step taken, made.trans_le (length_le_of_step taken)⟩
  have enabled : ∀ state, Consistent hasCallback state ∧ send < state.sends.length →
      ¬ state.EndedAt send →
        ∃ action : Action, action.Internal ∧ (step hasCallback state action).isSome = true :=
    fun state ⟨held, made⟩ unended => held.enabled made unended
  have lowers : ∀ before (action : Action) after,
      Consistent hasCallback before ∧ send < before.sends.length →
        ¬ before.EndedAt send → step hasCallback before action = some after →
          after.EndedAt send ∨ after.rank send ≤ before.rank send ∧
            (action.Internal → after.rank send < before.rank send) := by
    intro before action after ⟨held, made⟩ unended taken
    refine Or.inr ?_
    rcases step_cases taken with ⟨prepares, rfl, rfl⟩ | ⟨first, rest, rfl, waiters, rfl⟩ |
      ⟨answered, answer, rfl, found, rfl⟩ | ⟨caller, awaited, left, rfl, found, rfl⟩
    · exact ⟨(held.rank_start made unended prepares).le, fun internal => internal.elim⟩
    · have less := held.rank_resume waiters made unended
      exact ⟨less.le, fun _ => less⟩
    · have less : (before.answer hasCallback answered answer).rank send < before.rank send :=
        rank_answer found answer send
      exact ⟨less.le, fun _ => less⟩
    · have less := held.rank_proceed found send
      exact ⟨less.le, fun _ => less⟩
  exact run.eventually fair (State.rank send) kept enabled lowers ⟨consistent n, made⟩

/-! ## The law -/

/-- What holds where a run of concurrent calls has led: at most one post is in flight, the callback
is called at the first 410 and not again, nothing follows a 410 but calls that return False, and
the event loop stands still only if every call has ended. -/
structure Respected (hasCallback : Bool) (past : List Action) (state : State) : Prop where
  alone : ∀ first second : ℕ, state.sends[first]? = some .posting →
    state.sends[second]? = some .posting → first = second
  uncalled : ¬ Refused past → state.callbacks = 0
  once : Refused past → state.callbacks = if hasCallback then 1 else 0
  silent : Refused past → ∀ later after, execute (step hasCallback) state later = some after →
    after.posted = state.posted ∧
      ∀ (send : ℕ) (phase : Phase), after.sends[send]? = some phase → phase.ended = true →
        state.sends[send]? = some phase ∨ phase = .returned false
  moves : (∀ action : Action, action.Internal → step hasCallback state action = none) →
    ∀ phase ∈ state.sends, phase.ended = true

theorem respected_of_execute {past : List Action}
    (run : execute (step hasCallback) .initial past = some state) :
    Respected hasCallback past state := by
  obtain ⟨consistent, marked⟩ := consistent_of_execute run
  refine ⟨?_, ?_, ?_, ?_, ?_⟩
  · intro first second posting other
    by_contra apart
    have free := (consistent.busy_unique posting rfl).2 second _ (Ne.symm apart) other
    cases free
  · intro unmarked
    rw [consistent.called, Bool.eq_false_of_not_eq_true (unmarked ∘ marked.mp), Bool.and_false]
    rfl
  · intro refused
    rw [consistent.called, marked.mpr refused, Bool.and_true]
  · intro refused later after further
    have silent := consistent.silent_of_execute (marked.mpr refused) further
    exact ⟨silent.posted, silent.refused⟩
  · intro still phase member
    obtain ⟨send, found⟩ := List.mem_iff_getElem?.mp member
    by_contra unended
    have going : ¬ state.EndedAt send := fun ⟨other, here, ended⟩ =>
      unended (Option.some.inj (found.symm.trans here) ▸ ended)
    obtain ⟨action, internal, enabled⟩ :=
      consistent.enabled (List.getElem?_eq_some_iff.mp found).1 going
    rw [still action internal] at enabled
    cases enabled

/-- **A gone connection is respected.** This holds over every run of concurrent calls, and in a fair
run that goes on for ever, every call that is made ends. -/
theorem gone_respected (hasCallback : Bool) :
    (∀ (past : List Action) (state : State),
      execute (step hasCallback) .initial past = some state →
        Respected hasCallback past state) ∧
      ∀ run : Endless (step hasCallback) .initial, run.Fair Action.Internal →
        ∀ (n send : ℕ), send < (run.states n).sends.length →
          ∃ m, n ≤ m ∧ (run.states m).EndedAt send :=
  ⟨fun _ _ run => respected_of_execute run, fun run fair _ _ made =>
    eventually_ended run fair made⟩

-- Two calls, of which the first gets a 410: the callback sends once, and the second call ends last.
example :
    (execute (step true) .initial
      [.start true, .start true, .answer 0 (.gone [.send true]), .callback 0, .callback 0,
        .resume]).map (fun state => (state.sends, state.posted, state.callbacks)) =
      some ([.returned false, .returned false, .returned false], [0], 1) := rfl

end Panakoes.TranscriberStream.Publisher
