import Mathlib.Algebra.Order.BigOperators.Group.List
import Mathlib.Algebra.Order.Ring.Nat
import Mathlib.Data.Prod.Lex
import Panakoes.Foundation.FairRun

/-! # The publisher under concurrent sends

A send that finds the connection not gone waits for the lock, in the order of arrival, looks again
and posts. The first 410 marks the connection gone before the callback is awaited, with the lock
held, so that the sends that wait find it gone one after another, and a send of the callback itself
does not wait. The keepalive task is cancelled where the service sends no more, and so no send is
cancelled here.
-/

namespace Panakoes.TranscriberStream.Publisher

open Transition

/-- What the callback does next: it is suspended at a call of its own, or it sends. `prepares` says
whether the payload is written as JSON and the client is there. -/
inductive Segment where
  | suspend
  | send (prepares : Bool)

/-- Where a call of `send` is: it waits for the lock, or for its post, or for the callback, which may
wait for a send of its own and has segments left, or it has ended. -/
inductive Phase where
  | waiting
  | posting
  | inCallback (awaited : Option ℕ) (left : List Segment)
  | returned (ok : Bool)
  | raised

/-- The publisher. `waiters` are the futures of the lock, each of a send and done or not; `posted` are
the sends that have posted, and `callbacks` counts the runs of `on_gone`. -/
structure State where
  gone : Bool
  locked : Bool
  waiters : List (ℕ × Bool)
  sends : List Phase
  posted : List ℕ
  callbacks : ℕ

/-- How a post ends: it is accepted, or with a 410, where the callback goes through the segments, or
with another error. -/
inductive Answer where
  | accepted
  | gone (callback : List Segment)
  | failed

/-- A send is called, or the event loop goes on: with the first waiter of the lock, or with a send
whose post has ended, or with the callback. -/
inductive Action where
  | start (prepares : Bool)
  | resume
  | answer (send : ℕ) (answer : Answer)
  | callback (send : ℕ)

/-- The event loop goes on. -/
def Action.Internal : Action → Prop
  | .start _ => False
  | .resume | .answer _ _ | .callback _ => True

def State.initial : State := ⟨false, false, [], [], [], 0⟩

/-- `_wake_up_first`. -/
def wakeUpFirst : List (ℕ × Bool) → List (ℕ × Bool)
  | [] => []
  | (send, _) :: rest => (send, true) :: rest

/-- The send ends, and releases the lock. -/
def State.finish (state : State) (send : ℕ) (phase : Phase) : State :=
  { state with
    sends := state.sends.set send phase
    locked := false
    waiters := wakeUpFirst state.waiters }

/-- The send has the lock: it looks again, and posts. -/
def State.enter (state : State) (send : ℕ) : State :=
  if state.gone then { state with locked := true }.finish send (.returned false)
  else
    { state with
      locked := true
      sends := state.sends.set send .posting
      posted := state.posted ++ [send] }

/-- A call of `send`, up to its first suspension. The lock is acquired at once where it is free and
nobody waits for it. -/
def State.start (state : State) (prepares : Bool) : State :=
  let send := state.sends.length
  if state.gone then { state with sends := state.sends ++ [.returned false] }
  else if prepares = false then { state with sends := state.sends ++ [.raised] }
  else if state.locked = false ∧ state.waiters = [] then
    State.enter { state with sends := state.sends ++ [.waiting] } send
  else
    { state with
      sends := state.sends ++ [.waiting]
      waiters := state.waiters ++ [(send, false)] }

/-- The send behind its post. An exception of the callback is logged. -/
def State.answer (hasCallback : Bool) (state : State) (send : ℕ) : Answer → State
  | .accepted => state.finish send (.returned true)
  | .failed => state.finish send .raised
  | .gone callback =>
      if state.gone then state.finish send (.returned false)
      else if hasCallback then
        { state with
          gone := true
          callbacks := state.callbacks + 1
          sends := state.sends.set send (.inCallback none callback) }
      else { state with gone := true }.finish send (.returned false)

/-- The callback goes on to its next segment. -/
def State.proceed (state : State) (send : ℕ) : List Segment → State
  | [] => state.finish send (.returned false)
  | .suspend :: left => { state with sends := state.sends.set send (.inCallback none left) }
  | .send prepares :: left =>
      let sent := state.start prepares
      { sent with sends := sent.sends.set send (.inCallback (some state.sends.length) left) }

/-- The call has ended. -/
def Phase.ended : Phase → Bool
  | .returned _ | .raised => true
  | .waiting | .posting | .inCallback _ _ => false

/-- One step of the publisher. -/
def step (hasCallback : Bool) (state : State) : Action → Option State
  | .start prepares => some (state.start prepares)
  | .resume =>
      match state.waiters with
      | (send, true) :: rest => some ({ state with waiters := rest }.enter send)
      | _ => none
  | .answer send answer =>
      match state.sends[send]? with
      | some .posting => some (state.answer hasCallback send answer)
      | _ => none
  | .callback send =>
      match state.sends[send]? with
      | some (.inCallback awaited left) =>
          if awaited.all fun nested => (state.sends[nested]?.map Phase.ended).getD false then
            some (state.proceed send left)
          else none
      | _ => none

/-- What a step can do. -/
theorem step_cases {hasCallback : Bool} {state after : State} {action : Action}
    (taken : step hasCallback state action = some after) :
    (∃ prepares, action = .start prepares ∧ after = state.start prepares) ∨
    (∃ send rest, action = .resume ∧ state.waiters = (send, true) :: rest ∧
      after = State.enter { state with waiters := rest } send) ∨
    (∃ send answer, action = .answer send answer ∧ state.sends[send]? = some .posting ∧
      after = state.answer hasCallback send answer) ∨
    ∃ send awaited left, action = .callback send ∧
      state.sends[send]? = some (.inCallback awaited left) ∧ after = state.proceed send left := by
  cases action with
  | start prepares =>
      cases taken
      exact Or.inl ⟨prepares, rfl, rfl⟩
  | resume =>
      unfold step at taken
      dsimp only at taken
      split at taken
      · rename_i send rest waiters
        cases taken
        exact Or.inr (Or.inl ⟨send, rest, rfl, waiters, rfl⟩)
      · cases taken
  | answer send answer =>
      unfold step at taken
      dsimp only at taken
      split at taken
      · rename_i found
        cases taken
        exact Or.inr (Or.inr (Or.inl ⟨send, answer, rfl, found, rfl⟩))
      · cases taken
  | callback send =>
      unfold step at taken
      dsimp only at taken
      split at taken
      · rename_i awaited left found
        split at taken
        · cases taken
          exact Or.inr (Or.inr (Or.inr ⟨send, awaited, left, rfl, found, rfl⟩))
        · cases taken
      · cases taken

/-! ## The invariant -/

/-- The send holds the lock. -/
def Phase.busy : Phase → ℕ
  | .posting | .inCallback _ _ => 1
  | .waiting | .returned _ | .raised => 0

/-- The send has a post in flight. -/
def Phase.posts : Phase → ℕ
  | .posting => 1
  | .waiting | .inCallback _ _ | .returned _ | .raised => 0

/-- What is left of the callback. -/
def Phase.left : Phase → ℕ
  | .inCallback _ left => left.length + 1
  | .waiting | .posting | .returned _ | .raised => 0

/-- A total over the calls. -/
def State.total (state : State) (weight : Phase → ℕ) : ℕ := (state.sends.map weight).sum

/-- What holds between two steps: the lock is held by one send or by none, the waiters are the sends
that wait, and the first of them is woken where the lock is free. -/
structure Consistent (hasCallback : Bool) (state : State) : Prop where
  held : state.total Phase.busy = if state.locked then 1 else 0
  queued : ∀ send : ℕ, send ∈ state.waiters.map Prod.fst ↔ state.sends[send]? = some .waiting
  distinct : (state.waiters.map Prod.fst).Nodup
  front : ∀ waiter ∈ state.waiters.head?, waiter.2 = !state.locked
  behind : ∀ waiter ∈ state.waiters.tail, waiter.2 = false
  settled : state.gone = true → state.total Phase.posts = 0
  calling : ∀ (send : ℕ) (awaited : Option ℕ) (left : List Segment),
    state.sends[send]? = some (.inCallback awaited left) →
      state.gone = true ∧ ∀ nested ∈ awaited, state.sends[nested]? = some (.returned false)
  called : state.callbacks = if hasCallback && state.gone then 1 else 0

variable {hasCallback : Bool} {state : State} {send : ℕ} {old : Phase}

theorem Consistent.initial : Consistent hasCallback .initial where
  held := rfl
  queued send := iff_of_false List.not_mem_nil fun found => by cases found
  distinct := List.nodup_nil
  front waiter member := by cases member
  behind waiter member := absurd member List.not_mem_nil
  settled gone := by cases gone
  calling send awaited left found := by cases found
  called := by cases hasCallback <;> rfl

/-- The total after a call has moved on. -/
theorem sum_map_set {sends : List Phase} (found : sends[send]? = some old) (new : Phase)
    (weight : Phase → ℕ) :
    ((sends.set send new).map weight).sum + weight old =
      (sends.map weight).sum + weight new := by
  induction sends generalizing send with
  | nil => cases found
  | cons head rest ih =>
      cases send with
      | zero =>
          cases found
          rw [List.set_cons_zero, List.map_cons, List.map_cons, List.sum_cons, List.sum_cons]
          omega
      | succ send =>
          have later := @ih send found
          rw [List.set_cons_succ, List.map_cons, List.map_cons, List.sum_cons, List.sum_cons]
          omega

/-- A call counts at most for the total. -/
theorem weight_le_total (found : state.sends[send]? = some old) (weight : Phase → ℕ) :
    weight old ≤ state.total weight :=
  List.single_le_sum (fun _ _ => Nat.zero_le _) _
    (List.mem_map_of_mem (List.mem_of_getElem? found))

theorem posts_le_busy (phase : Phase) : phase.posts ≤ phase.busy := by
  cases phase <;> first | exact le_refl _ | exact Nat.zero_le _

theorem total_posts_le_busy (state : State) :
    state.total Phase.posts ≤ state.total Phase.busy :=
  List.sum_le_sum fun phase _ => posts_le_busy phase

theorem Phase.busy_of_ended {phase : Phase} (ended : phase.ended = true) : phase.busy = 0 := by
  cases phase <;> first | rfl | cases ended

theorem map_fst_wakeUpFirst (waiters : List (ℕ × Bool)) :
    (wakeUpFirst waiters).map Prod.fst = waiters.map Prod.fst := by
  cases waiters <;> rfl

theorem tail_wakeUpFirst (waiters : List (ℕ × Bool)) :
    (wakeUpFirst waiters).tail = waiters.tail := by
  cases waiters <;> rfl

theorem head_wakeUpFirst (waiters : List (ℕ × Bool)) :
    ∀ waiter ∈ (wakeUpFirst waiters).head?, waiter.2 = true := by
  intro waiter first
  cases waiters with
  | nil => cases first
  | cons head rest =>
      cases first
      rfl

/-- Where nobody holds the lock, nobody posts and no callback runs. -/
theorem idle (free : state.total Phase.busy = 0) (found : state.sends[send]? = some old) :
    old.busy = 0 :=
  Nat.eq_zero_of_le_zero (free ▸ weight_le_total found Phase.busy)

/-- Where the lock is held by one send, it is the only one. -/
theorem Consistent.busy_unique (consistent : Consistent hasCallback state)
    (found : state.sends[send]? = some old) (busy : old.busy = 1) :
    state.locked = true ∧ ∀ other phase, other ≠ send → state.sends[other]? = some phase →
      phase.busy = 0 := by
  have bound := weight_le_total found Phase.busy
  rw [consistent.held, busy] at bound
  have locked : state.locked = true := by
    by_contra free
    rw [if_neg free] at bound
    omega
  refine ⟨locked, fun other phase apart present => ?_⟩
  have without := sum_map_set found .raised Phase.busy
  have still : ({ state with sends := state.sends.set send .raised } : State).sends[other]? =
      some phase := by
    rw [List.getElem?_set_ne apart.symm]
    exact present
  have least := weight_le_total still Phase.busy
  have whole := consistent.held
  rw [if_pos locked] at whole
  unfold State.total at least whole
  dsimp only at least
  rw [busy, whole] at without
  have none : Phase.raised.busy = 0 := rfl
  omega

/-- A send that holds the lock ends. Afterwards nobody holds it. -/
theorem Consistent.finish (consistent : Consistent hasCallback state)
    (found : state.sends[send]? = some old) (busy : old.busy = 1) {phase : Phase}
    (ended : phase.ended = true) {gone : Bool}
    (same : (hasCallback && gone) = (hasCallback && state.gone)) :
    Consistent hasCallback ({ state with gone }.finish send phase) := by
  obtain ⟨locked, alone⟩ := consistent.busy_unique found busy
  have free : ({ state with gone }.finish send phase).total Phase.busy = 0 := by
    have moved := sum_map_set found phase Phase.busy
    have whole := consistent.held
    rw [if_pos locked] at whole
    unfold State.total at whole
    rw [busy, whole, Phase.busy_of_ended ended] at moved
    unfold State.total State.finish
    dsimp only
    omega
  refine ⟨?_, ?_, ?_, ?_, ?_, ?_, ?_, ?_⟩
  · rw [free]
    rfl
  · intro other
    unfold State.finish
    dsimp only
    rw [map_fst_wakeUpFirst, consistent.queued other]
    by_cases here : other = send
    · subst here
      have inside : other < state.sends.length := (List.getElem?_eq_some_iff.mp found).1
      rw [List.getElem?_set_self inside, found]
      refine iff_of_false ?_ ?_
      · rintro ⟨⟩
        cases busy
      · rintro ⟨⟩
        cases ended
    · rw [List.getElem?_set_ne (Ne.symm here)]
  · unfold State.finish
    dsimp only
    rw [map_fst_wakeUpFirst]
    exact consistent.distinct
  · exact head_wakeUpFirst _
  · unfold State.finish
    dsimp only
    rw [tail_wakeUpFirst]
    exact consistent.behind
  · intro _
    have bound := total_posts_le_busy ({ state with gone }.finish send phase)
    omega
  · intro other awaited left calling
    have none := idle free calling
    cases none
  · exact consistent.called.trans (by rw [← same]; rfl)

/-- A call that ends at once is added. -/
theorem Consistent.append_ended (consistent : Consistent hasCallback state) {phase : Phase}
    (ended : phase.ended = true) :
    Consistent hasCallback { state with sends := state.sends ++ [phase] } := by
  have total : ∀ weight : Phase → ℕ, weight phase = 0 →
      ({ state with sends := state.sends ++ [phase] } : State).total weight =
        state.total weight := by
    intro weight none
    unfold State.total
    dsimp only
    rw [List.map_append, List.sum_append, List.map_singleton, List.sum_singleton, none,
      Nat.add_zero]
  have unposted : phase.posts = 0 :=
    Nat.eq_zero_of_le_zero (Phase.busy_of_ended ended ▸ posts_le_busy phase)
  have found : ∀ {other : ℕ} {held : Phase}, held.ended = false →
      ((state.sends ++ [phase])[other]? = some held ↔ state.sends[other]? = some held) := by
    intro other held unended
    by_cases inside : other < state.sends.length
    · rw [List.getElem?_append_left inside]
    · rw [List.getElem?_append_right (not_lt.mp inside),
        List.getElem?_eq_none (not_lt.mp inside)]
      refine iff_of_false (fun last => ?_) (Option.some_ne_none _).symm
      rw [List.getElem?_singleton] at last
      split at last
      · cases last
        rw [ended] at unended
        cases unended
      · cases last
  refine ⟨?_, ?_, consistent.distinct, consistent.front, consistent.behind, ?_, ?_,
    consistent.called⟩
  · rw [total _ (Phase.busy_of_ended ended)]
    exact consistent.held
  · intro other
    rw [consistent.queued other]
    exact (found rfl).symm
  · intro gone
    rw [total _ unposted]
    exact consistent.settled gone
  · intro other awaited left calling
    obtain ⟨gone, nested⟩ := consistent.calling other awaited left ((found rfl).mp calling)
    refine ⟨gone, fun inner awaits => ?_⟩
    have held := nested inner awaits
    exact (List.getElem?_append_left (List.getElem?_eq_some_iff.mp held).1).trans held

/-- A call that waits is added, behind the others. -/
theorem Consistent.append_waiting (consistent : Consistent hasCallback state)
    (taken : state.locked = true ∨ state.waiters ≠ []) :
    Consistent hasCallback
      { state with
        sends := state.sends ++ [.waiting]
        waiters := state.waiters ++ [(state.sends.length, false)] } := by
  have total : ∀ weight : Phase → ℕ, weight .waiting = 0 →
      ((state.sends ++ [Phase.waiting]).map weight).sum = state.total weight := by
    intro weight none
    rw [List.map_append, List.sum_append, List.map_singleton, List.sum_singleton, none,
      Nat.add_zero]
    rfl
  refine ⟨?_, ?_, ?_, ?_, ?_, ?_, ?_, consistent.called⟩
  · exact (total _ rfl).trans consistent.held
  · intro other
    rw [List.map_append, List.mem_append, consistent.queued other, List.map_singleton,
      List.mem_singleton]
    by_cases inside : other < state.sends.length
    · rw [List.getElem?_append_left inside, or_iff_left inside.ne]
    · rw [List.getElem?_append_right (not_lt.mp inside),
        List.getElem?_eq_none (not_lt.mp inside), List.getElem?_singleton,
        or_iff_right (Option.some_ne_none _).symm]
      constructor
      · rintro rfl
        rw [Nat.sub_self, if_pos rfl]
      · intro last
        split at last
        · omega
        · cases last
  · rw [List.map_append]
    refine List.nodup_append.mpr ⟨consistent.distinct, List.pairwise_singleton _ _, ?_⟩
    intro other member _ last
    cases List.mem_singleton.mp last
    have held := (consistent.queued _).mp member
    exact (List.getElem?_eq_some_iff.mp held).1.ne
  · intro waiter first
    cases waiters : state.waiters with
    | nil =>
        rw [waiters] at first taken
        cases first
        have locked := taken.resolve_right (fun some => some rfl)
        rw [locked]
        rfl
    | cons head rest =>
        rw [waiters] at first
        refine consistent.front waiter ?_
        rw [waiters]
        exact first
  · intro waiter member
    cases waiters : state.waiters with
    | nil =>
        rw [waiters] at member
        exact absurd member List.not_mem_nil
    | cons head rest =>
        rw [waiters] at member
        rcases List.mem_append.mp member with early | last
        · refine consistent.behind waiter ?_
          rw [waiters]
          exact early
        · cases List.mem_singleton.mp last
          rfl
  · exact fun gone => (total _ rfl).trans (consistent.settled gone)
  · intro other awaited left calling
    by_cases inside : other < state.sends.length
    · rw [List.getElem?_append_left inside] at calling
      obtain ⟨gone, nested⟩ := consistent.calling other awaited left calling
      refine ⟨gone, fun inner awaits => ?_⟩
      have held := nested inner awaits
      exact (List.getElem?_append_left (List.getElem?_eq_some_iff.mp held).1).trans held
    · rw [List.getElem?_append_right (not_lt.mp inside), List.getElem?_singleton] at calling
      split at calling <;> cases calling

/-- A call that finds the lock free and nobody waiting posts at once. -/
theorem Consistent.post_at_once (consistent : Consistent hasCallback state)
    (free : state.locked = false) (unqueued : state.waiters = []) (there : state.gone = false) :
    Consistent hasCallback
      { state with
        locked := true
        sends := state.sends ++ [.posting]
        posted := state.posted ++ [state.sends.length] } := by
  have held := consistent.held
  rw [if_neg (by simp [free])] at held
  refine ⟨?_, ?_, consistent.distinct, ?_, consistent.behind, ?_, ?_, consistent.called⟩
  · unfold State.total at held ⊢
    dsimp only
    rw [List.map_append, List.sum_append, held]
    rfl
  · intro other
    rw [unqueued]
    refine iff_of_false List.not_mem_nil fun waits => ?_
    by_cases inside : other < state.sends.length
    · rw [List.getElem?_append_left inside] at waits
      have member := (consistent.queued other).mpr waits
      rw [unqueued] at member
      exact List.not_mem_nil member
    · rw [List.getElem?_append_right (not_lt.mp inside), List.getElem?_singleton] at waits
      split at waits <;> cases waits
  · rw [unqueued]
    exact fun waiter first => absurd first (Option.not_mem_none waiter)
  · exact fun gone => absurd (there.symm.trans gone) Bool.false_ne_true
  · intro other awaited left calling
    by_cases inside : other < state.sends.length
    · rw [List.getElem?_append_left inside] at calling
      cases idle held calling
    · rw [List.getElem?_append_right (not_lt.mp inside), List.getElem?_singleton] at calling
      split at calling <;> cases calling

/-- The first waiter is woken only where the lock is free. -/
theorem Consistent.free_of_woken (consistent : Consistent hasCallback state)
    {rest : List (ℕ × Bool)} (waiters : state.waiters = (send, true) :: rest) :
    state.locked = false ∧ state.total Phase.busy = 0 ∧ state.sends[send]? = some .waiting ∧
      send ∉ rest.map Prod.fst := by
  have woken := consistent.front (send, true) (by rw [waiters]; rfl)
  have free : state.locked = false := by
    cases locked : state.locked with
    | false => rfl
    | true =>
        rw [locked] at woken
        cases woken
  have held := consistent.held
  rw [if_neg (by simp [free])] at held
  have distinct := consistent.distinct
  rw [waiters, List.map_cons, List.nodup_cons] at distinct
  refine ⟨free, held, (consistent.queued send).mp ?_, distinct.1⟩
  rw [waiters]
  exact List.mem_cons_self

/-- The first waiter gets the lock: it ends, or it posts. -/
theorem Consistent.resume (consistent : Consistent hasCallback state) {rest : List (ℕ × Bool)}
    (waiters : state.waiters = (send, true) :: rest) :
    Consistent hasCallback (State.enter { state with waiters := rest } send) := by
  obtain ⟨free, held, waits, fresh⟩ := consistent.free_of_woken waiters
  have inside : send < state.sends.length := (List.getElem?_eq_some_iff.mp waits).1
  have distinct := consistent.distinct
  rw [waiters, List.map_cons, List.nodup_cons] at distinct
  have unwoken : ∀ waiter ∈ rest, waiter.2 = false := by
    have behind := consistent.behind
    rw [waiters] at behind
    exact behind
  have queued : ∀ phase : Phase, phase ≠ .waiting → ∀ other,
      other ∈ rest.map Prod.fst ↔ (state.sends.set send phase)[other]? = some .waiting := by
    intro phase moved other
    by_cases here : other = send
    · subst here
      rw [List.getElem?_set_self inside]
      exact iff_of_false fresh fun same => moved (Option.some.inj same)
    · rw [List.getElem?_set_ne (Ne.symm here), ← consistent.queued other, waiters, List.map_cons,
        List.mem_cons, or_iff_right here]
  have total : ∀ phase : Phase,
      ((state.sends.set send phase).map Phase.busy).sum = phase.busy := by
    intro phase
    have moved := sum_map_set waits phase Phase.busy
    unfold State.total at held
    rw [held] at moved
    have none : Phase.waiting.busy = 0 := rfl
    omega
  have quiet : ∀ (phase : Phase) (other : ℕ) (awaited : Option ℕ) (left : List Segment),
      (∀ awaited left, phase ≠ .inCallback awaited left) →
        (state.sends.set send phase)[other]? ≠ some (.inCallback awaited left) := by
    intro phase other awaited left apart calling
    by_cases here : other = send
    · subst here
      rw [List.getElem?_set_self inside] at calling
      exact apart awaited left (Option.some.inj calling)
    · rw [List.getElem?_set_ne (Ne.symm here)] at calling
      cases idle held calling
  unfold State.enter
  dsimp only
  split
  · refine ⟨total _, ?_, ?_, head_wakeUpFirst _, ?_, ?_, ?_, consistent.called⟩
    · intro other
      refine Iff.trans ?_ (queued (.returned false) Phase.noConfusion other)
      exact Iff.of_eq (congrArg (other ∈ ·) (map_fst_wakeUpFirst rest))
    · exact (map_fst_wakeUpFirst rest).symm ▸ distinct.2
    · intro waiter member
      have later : waiter ∈ rest.tail := (tail_wakeUpFirst rest) ▸ member
      exact unwoken waiter (List.mem_of_mem_tail later)
    · intro _
      have bound := total_posts_le_busy
        { state with sends := state.sends.set send (.returned false) }
      exact Nat.eq_zero_of_le_zero (bound.trans (total _).le)
    · intro other awaited left calling
      exact absurd calling (quiet _ other awaited left fun _ _ => Phase.noConfusion)
  · rename_i there
    refine ⟨total _, queued .posting Phase.noConfusion, distinct.2, ?_, ?_, ?_, ?_, ?_⟩
    · exact fun waiter first => unwoken waiter (List.mem_of_mem_head? first)
    · exact fun waiter member => unwoken waiter (List.mem_of_mem_tail member)
    · exact fun gone => absurd gone there
    · intro other awaited left calling
      exact absurd calling (quiet _ other awaited left fun _ _ => Phase.noConfusion)
    · exact consistent.called

/-- The callback is started, or goes on. -/
theorem Consistent.setCallback (consistent : Consistent hasCallback state)
    (found : state.sends[send]? = some old) (busy : old.busy = 1) {awaited : Option ℕ}
    (left : List Segment) {gone : Bool} {callbacks : ℕ} (marked : gone = true)
    (counted : callbacks = if hasCallback && gone then 1 else 0)
    (nested : ∀ inner ∈ awaited, state.sends[inner]? = some (.returned false)) :
    Consistent hasCallback
      { state with gone, callbacks, sends := state.sends.set send (.inCallback awaited left) } := by
  have inside : send < state.sends.length := (List.getElem?_eq_some_iff.mp found).1
  obtain ⟨locked, alone⟩ := consistent.busy_unique found busy
  have held := consistent.held
  have moved := sum_map_set found (.inCallback awaited left) Phase.busy
  have answered := sum_map_set found (.inCallback awaited left) Phase.posts
  refine ⟨?_, ?_, consistent.distinct, consistent.front, consistent.behind, ?_, ?_, counted⟩
  · unfold State.total at held ⊢
    dsimp only
    rw [held, busy] at moved
    have one : (Phase.inCallback awaited left).busy = 1 := rfl
    omega
  · intro other
    rw [consistent.queued other]
    by_cases here : other = send
    · subst here
      rw [List.getElem?_set_self inside, found]
      refine iff_of_false ?_ ?_
      · rintro ⟨⟩
        cases busy
      · rintro ⟨⟩
    · rw [List.getElem?_set_ne (Ne.symm here)]
  · intro _
    have none : (Phase.inCallback awaited left).posts = 0 := rfl
    have bound := total_posts_le_busy state
    rw [held, if_pos locked] at bound
    unfold State.total at bound ⊢
    dsimp only
    cases old with
    | posting =>
        have one : Phase.posting.posts = 1 := rfl
        omega
    | inCallback awaits behind =>
        have settled := consistent.settled (consistent.calling send awaits behind found).1
        unfold State.total at settled
        omega
    | waiting | returned _ | raised => cases busy
  · intro other awaits behind calling
    refine ⟨marked, fun inner member => ?_⟩
    by_cases here : other = send
    · subst here
      rw [List.getElem?_set_self inside] at calling
      cases calling
      have ended := nested inner member
      have apart : other ≠ inner := by
        rintro rfl
        cases found.symm.trans ended
        cases busy
      exact (List.getElem?_set_ne apart).trans ended
    · rw [List.getElem?_set_ne (Ne.symm here)] at calling
      cases alone other _ here calling

/-- A call is made. -/
theorem Consistent.start (consistent : Consistent hasCallback state) (prepares : Bool) :
    Consistent hasCallback (state.start prepares) := by
  unfold State.start
  dsimp only
  split
  · exact consistent.append_ended rfl
  · rename_i there
    split
    · exact consistent.append_ended rfl
    · split
      · rename_i unlocked
        have placed : (state.sends ++ [Phase.waiting]).set state.sends.length .posting =
            state.sends ++ [.posting] := by
          rw [List.set_append_right _ _ (le_refl _), Nat.sub_self, List.set_cons_zero]
        unfold State.enter
        dsimp only
        rw [if_neg there, placed]
        exact consistent.post_at_once unlocked.1 unlocked.2 (Bool.eq_false_of_not_eq_true there)
      · rename_i taken
        apply consistent.append_waiting
        by_contra neither
        obtain ⟨free, unqueued⟩ := not_or.mp neither
        exact taken ⟨Bool.eq_false_of_not_eq_true free, not_not.mp unqueued⟩

/-- A post ends. -/
theorem Consistent.answer (consistent : Consistent hasCallback state)
    (found : state.sends[send]? = some .posting) (answer : Answer) :
    Consistent hasCallback (state.answer hasCallback send answer) := by
  cases answer with
  | accepted => exact consistent.finish found rfl rfl rfl
  | failed => exact consistent.finish found rfl rfl rfl
  | gone callback =>
      unfold State.answer
      dsimp only
      split
      · exact consistent.finish found rfl rfl rfl
      · rename_i there
        split
        · rename_i has
          refine consistent.setCallback found rfl callback rfl ?_ fun _ awaits => by cases awaits
          rw [consistent.called, has, Bool.eq_false_of_not_eq_true there]
          rfl
        · rename_i without
          refine consistent.finish found rfl rfl ?_
          rw [Bool.eq_false_of_not_eq_true without]
          rfl

/-- The callback goes on. -/
theorem Consistent.proceed (consistent : Consistent hasCallback state) {awaited : Option ℕ}
    {behind : List Segment} (found : state.sends[send]? = some (.inCallback awaited behind))
    (left : List Segment) : Consistent hasCallback (state.proceed send left) := by
  have gone := (consistent.calling send awaited behind found).1
  cases left with
  | nil => exact consistent.finish found rfl rfl rfl
  | cons segment left =>
      cases segment with
      | suspend =>
          exact consistent.setCallback found rfl left gone consistent.called
            fun _ awaits => by cases awaits
      | send prepares =>
          have sent : state.start prepares =
              { state with sends := state.sends ++ [.returned false] } := if_pos gone
          have still : ({ state with sends := state.sends ++ [.returned false] } : State).sends[send]? =
              some (.inCallback awaited behind) :=
            (List.getElem?_append_left (List.getElem?_eq_some_iff.mp found).1).trans found
          unfold State.proceed
          dsimp only
          rw [sent]
          refine (consistent.append_ended rfl).setCallback still rfl left gone consistent.called ?_
          intro inner awaits
          cases awaits
          exact List.getElem?_concat_length

/-- Every step keeps the invariant. -/
theorem Consistent.step (consistent : Consistent hasCallback state) {action : Action}
    {after : State} (taken : step hasCallback state action = some after) :
    Consistent hasCallback after := by
  rcases step_cases taken with ⟨prepares, -, rfl⟩ | ⟨send, rest, -, waiters, rfl⟩ |
    ⟨send, answer, -, found, rfl⟩ | ⟨send, awaited, left, -, found, rfl⟩
  · exact consistent.start prepares
  · exact consistent.resume waiters
  · exact consistent.answer found answer
  · exact consistent.proceed found left

end Panakoes.TranscriberStream.Publisher
